/-
BrokerNode/Proofs/Folder.lean

What is found in files.

A file gives a text when it can be read and holds the bytes of one (`Folder.text_eq_ok_iff`), and a
definition when that text is one (`Definition.ofFile_eq_ok_iff`).  Of several files of one name in folders
around each other, the one that is found is the nearest (`Folder.nearest?_eq_some_iff`).
-/
import BrokerNode.Definition.File
import BrokerNode.Proofs.First
import BrokerNode.Proofs.Text.Bytes

namespace BrokerNode

namespace Folder

/-! ### Texts in files -/

/-- A file gives a text just when it can be read and holds the bytes of that text. -/
theorem text_eq_ok_iff {content : FileResult} {s : String} :
    text content = .ok s ↔ content = .ok s.toUTF8 := by
  cases content with
  | error p => simp [text]
  | ok bytes =>
    rw [Except.ok.injEq, ← Text.fromUTF8?_eq_some_iff, text]
    cases String.fromUTF8? bytes <;> simp

/-- It gives none when it cannot be read or holds no text. -/
theorem text_eq_error_iff {content : FileResult} {p : Problem} :
    text content = .error p ↔ content = .error p ∨
      (∃ bytes, content = .ok bytes ∧ ∀ s : String, bytes ≠ s.toUTF8) ∧ p = .notText := by
  cases content with
  | error q => simp [text]
  | ok bytes =>
    simp only [text, ← Text.fromUTF8?_eq_some_iff, Except.ok.injEq, exists_eq_left', ne_eq]
    cases String.fromUTF8? bytes <;> simp [eq_comm]

/-! ### The nearest file -/

/-- There is a file of the given name in a folder. -/
def HoldsFile (name : String) (folder : Folder) : Prop :=
  ∃ content, folder.lookup name = some (.file content)

/-- The content of the file of the given name that is nearest to a working folder. -/
def IsNearest (name : String) (folders : List Folder) (content : ByteArray) : Prop :=
  ∃ folder, IsFirst (HoldsFile name) folders folder ∧ folder.lookup name = some (.file content)

theorem nearest?_cons_of_file {name : String} {folder : Folder} {content : ByteArray}
    (h : folder.lookup name = some (.file content)) (outer : List Folder) :
    nearest? name (folder :: outer) = some content := by
  rw [nearest?, h]

theorem nearest?_cons_of_no_file {name : String} {folder : Folder} (h : ¬HoldsFile name folder)
    (outer : List Folder) : nearest? name (folder :: outer) = nearest? name outer := by
  rw [nearest?]
  split
  · next content hfile => exact absurd ⟨content, hfile⟩ h
  · rfl

theorem nearest?_eq_some_iff {name : String} {folders : List Folder} {content : ByteArray} :
    nearest? name folders = some content ↔ IsNearest name folders content := by
  induction folders with
  | nil => simp [nearest?, IsNearest, IsFirst.not_nil]
  | cons folder outer ih =>
    by_cases hfile : HoldsFile name folder
    · obtain ⟨other, hother⟩ := id hfile
      rw [nearest?_cons_of_file hother]
      simp [IsNearest, IsFirst.cons_iff, hfile, hother]
    · rw [nearest?_cons_of_no_file hfile, ih]
      simp [IsNearest, IsFirst.cons_iff, hfile]

end Folder

/-! ### Definitions in files -/

namespace Definition

/-- A file gives a definition just when its text is one. -/
theorem ofFile_eq_ok_iff {content : Folder.FileResult} {d : Definition} :
    ofFile content = .ok d ↔ ∃ s : String, content = .ok s.toUTF8 ∧ parse s = .ok d := by
  simp only [← Folder.text_eq_ok_iff, ofFile]
  cases Folder.text content with
  | error p => simp
  | ok s =>
    simp only [Except.ok.injEq, exists_eq_left']
    cases parse s <;> simp

/-- It gives none when it gives no text, or one that is no definition. -/
theorem ofFile_eq_error_iff {content : Folder.FileResult} {p : LoadProblem} :
    ofFile content = .error p ↔ (∃ q, Folder.text content = .error q ∧ p = .unreadable q) ∨
      ∃ (s : String) (f : Json.LocatedFault),
        content = .ok s.toUTF8 ∧ parse s = .error f ∧ p = .malformed f := by
  simp only [← Folder.text_eq_ok_iff, ofFile]
  cases Folder.text content with
  | error q => simp [eq_comm]
  | ok s =>
    simp only [Except.ok.injEq, reduceCtorEq, false_and, exists_false, false_or, exists_and_left,
      exists_eq_left']
    cases parse s <;> simp [eq_comm]

end Definition

end BrokerNode
