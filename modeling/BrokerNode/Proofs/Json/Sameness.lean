/-
BrokerNode/Proofs/Json/Sameness.lean

Sameness of values, which compares doubles, against equality.

Two doubles compare equal when they are equal or both are zeros, and each compares equal to itself
unless it is no number (`eq_or_zeros_of_beq`, `beq_self`).  Neither exception matters to a number that
is read back from its own text: zeros keep their signs there, and what is no number is not read.  So
a number, and with it a value, that is read back as the same is read back as itself
(`reread_eq_self_of_same`), and one that is read back as itself is the same as itself
(`same_self_of_reread`).
-/
import BrokerNode.Proofs.Json.ValueText
import Mathlib

namespace BrokerNode

namespace Double

open Float.Model UnpackedFloat

/-! ### Doubles from their parts -/

/-- The bits of a double. -/
def bits (x : Float) : BitVec Format.binary64.numBits := x.toModel.toBits.toBitVec

theorem eq_of_bits {x y : Float} (h : bits x = bits y) : x = y := by
  obtain ⟨⟨b, hb⟩⟩ := x
  obtain ⟨⟨c, hc⟩⟩ := y
  have heq : b = c := UInt64.toBitVec_inj.mp h
  subst heq
  rfl

theorem eq_of_parts {x y : Float} (hs : unpackSign (bits x) = unpackSign (bits y))
    (he : unpackExponent (bits x) = unpackExponent (bits y))
    (hm : unpackMantissa (bits x) = unpackMantissa (bits y)) : x = y := by
  -- sign, exponent and mantissa are the digits of the bits, read as a number
  have hs := congrArg BitVec.toNat hs
  have he := congrArg BitVec.toNat he
  have hm := congrArg BitVec.toNat hm
  simp only [unpackSign, unpackExponent, unpackMantissa, BitVec.toNat_cast, BitVec.extractLsb_toNat,
    Nat.shiftRight_eq_div_pow] at hs he hm
  have hx := (bits x).isLt
  have hy := (bits y).isLt
  apply eq_of_bits
  apply BitVec.eq_of_toNat_eq
  simp only [Format.numBits] at *
  omega

theorem sign_injective {b c : BitVec 1} (h : Sign.ofBitVec b = Sign.ofBitVec c) : b = c := by
  rcases BitVec.eq_zero_or_eq_one b with rfl | rfl <;>
    rcases BitVec.eq_zero_or_eq_one c with rfl | rfl <;> first | rfl | cases h

theorem toNat_implicit_bit {w : Nat} (m : BitVec w) : (1#1 ++ m).toNat = 2 ^ w + m.toNat := by
  have hor := Nat.two_pow_add_eq_or_of_lt m.isLt 1
  rw [Nat.mul_one] at hor
  rw [hor, BitVec.toNat_append]
  simp [Nat.shiftLeft_eq]

/-- What a double is, by its exponent and its mantissa. -/
inductive Parts (x : Float) : UnpackedFloat → Prop where
  | infinity (he : unpackExponent (bits x) = -1#_) (hm : unpackMantissa (bits x) = 0#_) :
    Parts x (.infinity (.ofBitVec (unpackSign (bits x))))
  | notANumber (he : unpackExponent (bits x) = -1#_) (hm : unpackMantissa (bits x) ≠ 0#_) :
    Parts x .notANumber
  | zero (he : unpackExponent (bits x) = 0#_) (hm : unpackMantissa (bits x) = 0#_) :
    Parts x (.zero (.ofBitVec (unpackSign (bits x))))
  | subnormal {m : Nat} {e : Int} (hpos : 0 < m) (he : (unpackExponent (bits x)).toNat = 0)
    (hm : m = (unpackMantissa (bits x)).toNat) (hexp : e = -1074) :
    Parts x (.finite (.ofBitVec (unpackSign (bits x))) m e hpos)
  | normal {m : Nat} {e : Int} (hpos : 0 < m) (he : (unpackExponent (bits x)).toNat ≠ 0)
    (hm : m = 2 ^ 52 + (unpackMantissa (bits x)).toNat)
    (hexp : e = ((unpackExponent (bits x)).toNat : Int) - 1075) :
    Parts x (.finite (.ofBitVec (unpackSign (bits x))) m e hpos)

theorem parts (x : Float) : Parts x x.toModel.unpack := by
  show Parts x (UnpackedFloat.unpack Format.binary64 (bits x))
  unfold UnpackedFloat.unpack
  dsimp only
  split
  · next he =>
    split
    · next hm => exact .infinity he hm
    · next hm => exact .notANumber he hm
  · split
    · next he =>
      split
      · next hm => exact .zero he hm
      · refine .subnormal _ (by rw [he]; rfl) rfl ?_
        rw [he]
        rfl
    · next he =>
      refine .normal _ ?_ ?_ ?_
      · intro h
        exact he (BitVec.eq_of_toNat_eq h)
      · exact toNat_implicit_bit _
      · rfl

/-! ### Comparing doubles -/

/-- The value of operations without a result. -/
def nan : Float := 0.0 / 0.0

theorem eq_nan_of_unpack {x : Float} (h : x.toModel.unpack = .notANumber) : x = nan := by
  have hparts := parts x
  rw [h] at hparts
  cases hparts with
  | notANumber he hm =>
    have hx : bits x = packedNaN Format.binary64 := x.toModel.valid.eq_packedNaN he hm
    have hnan : bits nan = packedNaN Format.binary64 := by decide
    exact eq_of_bits (hx.trans hnan.symm)

theorem eq_zero_of_unpack {x : Float} {s : Sign} (h : x.toModel.unpack = .zero s) :
    x = 0.0 ∨ x = -0.0 := by
  have hparts := parts x
  rw [h] at hparts
  cases hparts with
  | zero he hm =>
    rcases BitVec.eq_zero_or_eq_one (unpackSign (bits x)) with hs | hs
    · left
      exact eq_of_parts (hs.trans (by decide)) (he.trans (by decide)) (hm.trans (by decide))
    · right
      exact eq_of_parts (hs.trans (by decide)) (he.trans (by decide)) (hm.trans (by decide))

theorem eq_of_unpack_infinity {x y : Float} {s : Sign} (hx : x.toModel.unpack = .infinity s)
    (hy : y.toModel.unpack = .infinity s) : x = y := by
  have hxs := parts x
  have hys := parts y
  rw [hx] at hxs
  rw [hy] at hys
  generalize ht : s = t at hys
  cases hxs with
  | infinity hex hmx =>
    cases hys with
    | infinity hey hmy =>
      exact eq_of_parts (sign_injective ht) (hex.trans hey.symm) (hmx.trans hmy.symm)

theorem eq_of_unpack_finite {x y : Float} {s : Sign} {m : Nat} {e : Int} {hm : 0 < m}
    (hx : x.toModel.unpack = .finite s m e hm) (hy : y.toModel.unpack = .finite s m e hm) :
    x = y := by
  have hxs := parts x
  have hys := parts y
  rw [hx] at hxs
  rw [hy] at hys
  generalize ht : s = t at hys
  have hbx : (unpackMantissa (bits x)).toNat < 2 ^ 52 := (unpackMantissa (bits x)).isLt
  have hby : (unpackMantissa (bits y)).toNat < 2 ^ 52 := (unpackMantissa (bits y)).isLt
  -- the implicit bit tells the normal doubles from the others, so the parts agree
  cases hxs <;> cases hys <;>
    · refine eq_of_parts (sign_injective ht) (BitVec.eq_of_toNat_eq ?_) (BitVec.eq_of_toNat_eq ?_)
      · omega
      · omega

/-- A double that is a number compares equal to itself. -/
theorem beq_self {x : Float} (h : x ≠ nan) : (x == x) = true := by
  have hcompare : ∀ u : UnpackedFloat, u ≠ .notANumber → u.compare u = some .eq := by
    intro u hu
    cases u with
    | infinity s => cases s <;> rfl
    | notANumber => exact absurd rfl hu
    | zero s => rfl
    | finite s m e hm => cases s <;> simp [UnpackedFloat.compare]
  show (x.toModel.unpack.compare x.toModel.unpack == some .eq) = true
  rw [hcompare _ fun hu => h (eq_nan_of_unpack hu)]
  rfl

/-- Doubles that compare equal are equal, but for the two zeros. -/
theorem eq_or_zeros_of_beq {x y : Float} (h : (x == y) = true) :
    x = y ∨ (x = 0.0 ∨ x = -0.0) ∧ (y = 0.0 ∨ y = -0.0) := by
  have h : x.toModel.unpack.compare y.toModel.unpack = some .eq := eq_of_beq h
  -- only doubles of the same class compare equal
  cases hx : x.toModel.unpack with
  | notANumber =>
    rw [hx] at h
    cases h
  | infinity s =>
    cases hy : y.toModel.unpack with
    | infinity t =>
      rw [hx, hy] at h
      have hst : s = t := by
        cases s <;> cases t <;> first | rfl | cases h
      subst hst
      exact Or.inl (eq_of_unpack_infinity hx hy)
    | notANumber | zero t | finite t =>
      rw [hx, hy] at h
      cases s <;> cases h
  | zero s =>
    cases hy : y.toModel.unpack with
    | zero t => exact Or.inr ⟨eq_zero_of_unpack hx, eq_zero_of_unpack hy⟩
    | notANumber =>
      rw [hx, hy] at h
      cases h
    | infinity t | finite t =>
      rw [hx, hy] at h
      cases t <;> cases h
  | finite s m e hm =>
    cases hy : y.toModel.unpack with
    | notANumber | zero t =>
      rw [hx, hy] at h
      cases s <;> cases h
    | infinity t =>
      rw [hx, hy] at h
      cases s <;> cases t <;> cases h
    | finite t m' e' hm' =>
      rw [hx, hy] at h
      have hparts : s = t ∧ e = e' ∧ m = m' := by
        cases s <;> cases t <;> simp [UnpackedFloat.compare, Ordering.then_eq_eq] at h ⊢ <;> exact h
      obtain ⟨rfl, rfl, rfl⟩ := hparts
      exact Or.inl (eq_of_unpack_finite hx hy)

end Double

namespace Json

/-! ### Numbers that are read back -/

theorem Number.reread_nan : Number.reread (.float Double.nan) = none := by
  have h : (Number.reread (.float Double.nan)).isNone = true := by decide +kernel
  exact Option.isNone_iff_eq_none.mp h

/-- Whether a number is a given double. -/
def Number.isDouble (x : Float) : Number → Bool
  | .whole _ _ => false
  | .float y => decide (y = x)

theorem Number.eq_of_isDouble {x : Float} {n : Number} (h : n.isDouble x = true) :
    n = .float x := by
  cases n with
  | whole n bounds => cases h
  | float y => rw [of_decide_eq_true h]

theorem Number.isStable_zeros {x : Float} (h : x = 0.0 ∨ x = -0.0) : IsStable (.float x) := by
  have hdouble : (Number.reread (.float x)).any (isDouble x) = true := by
    rcases h with rfl | rfl
    · decide +kernel
    · decide +kernel
  obtain ⟨n, hn, hx⟩ := (Option.any_eq_true _ _).mp hdouble
  rw [IsStable, hn, eq_of_isDouble hx]

/-- A number that is read back as itself is the same as itself. -/
theorem Number.IsStable.same_self {n : Number} (h : n.IsStable) : n.same n = true := by
  cases n with
  | whole n bounds => exact beq_self_eq_true n
  | float x =>
    refine Double.beq_self ?_
    rintro rfl
    rw [Number.IsStable, Number.reread_nan] at h
    cases h

/-- A number that is read back as the same is read back as itself. -/
theorem Number.isStable_of_same {n m : Number} (h : n.reread = some m) (hs : m.same n = true) :
    n.IsStable := by
  cases n with
  | whole n bounds => exact Number.isStable_whole bounds
  | float x =>
    cases m with
    | whole m bounds => cases hs
    | float y =>
      rcases Double.eq_or_zeros_of_beq hs with rfl | ⟨-, hx⟩
      · exact h
      · exact Number.isStable_zeros hx

/-- A whole number is the same as itself only. -/
theorem Number.eq_of_same {m n : Number} (hm : m.isWhole = true) (h : m.same n = true) : m = n := by
  cases m with
  | whole m bounds =>
    cases n with
    | whole n bounds' =>
      obtain rfl := eq_of_beq h
      rfl
    | float y => cases h
  | float x => cases hm

/-! ### Values that are read back -/

/-- All numbers of a value without doubles are read back as themselves. -/
theorem stable_of_allWhole {v : Json} (h : v.allWhole = true) :
    Everywhere (IfNumber Number.IsStable) v := by
  refine Everywhere.mono ?_ (allWhole_iff.mp h)
  intro w hw
  cases w with
  | number n => exact Number.isStable_of_isWhole hw
  | null | bool b | string s | list xs | object ms => trivial

/-- A value whose numbers are all read back as themselves is the same as itself. -/
theorem same_self {v : Json} (h : Everywhere (IfNumber Number.IsStable) v) : v.same v = true := by
  induction v using rec_on_parts with
  | null => rfl
  | bool b => exact beq_self_eq_true b
  | number n => exact (everywhere_number.mp h).same_self
  | string s => exact beq_self_eq_true s
  | list xs ih =>
    obtain ⟨-, hxs⟩ := everywhere_list_iff.mp h
    rw [same]
    clear h
    induction xs with
    | nil => rfl
    | cons x xs ihxs =>
      rw [List.forall_mem_cons] at ih hxs
      rw [sameElements, ih.1 hxs.1, ihxs ih.2 hxs.2]
      rfl
  | object ms ih =>
    obtain ⟨-, hms⟩ := everywhere_object_iff.mp h
    rw [same]
    clear h
    induction ms with
    | nil => rfl
    | cons m ms ihms =>
      obtain ⟨k, x⟩ := m
      rw [List.forall_mem_cons] at ih hms
      rw [sameMembers, beq_self_eq_true, ih.1 hms.1, ihms ih.2 hms.2]
      rfl

/-- Values that may be absent are the same as themselves, too. -/
theorem same_self_of_stable {vs : List (Option Json)}
    (h : ∀ v ∈ vs, ∀ x ∈ v, Everywhere (IfNumber Number.IsStable) x) : (vs == vs) = true := by
  induction vs with
  | nil => rfl
  | cons v vs ih =>
    rw [List.forall_mem_cons] at h
    rw [List.cons_beq_cons, ih h.2, Bool.and_true]
    cases v with
    | none => rfl
    | some x => exact same_self (h.1 x rfl)

theorem eq_of_sameElements {xs ys : List Json} (hx : ∀ x ∈ xs, ∀ y, x.same y = true → x = y)
    (h : sameElements xs ys = true) : xs = ys := by
  induction xs generalizing ys with
  | nil =>
    cases ys with
    | nil => rfl
    | cons y ys => cases h
  | cons x xs ih =>
    cases ys with
    | nil => cases h
    | cons y ys =>
      rw [sameElements, Bool.and_eq_true] at h
      rw [List.forall_mem_cons] at hx
      rw [hx.1 y h.1, ih hx.2 h.2]

theorem eq_of_sameMembers {ms ns : List (String × Json)}
    (hm : ∀ m ∈ ms, ∀ y, m.2.same y = true → m.2 = y) (h : sameMembers ms ns = true) : ms = ns := by
  induction ms generalizing ns with
  | nil =>
    cases ns with
    | nil => rfl
    | cons n ns => cases h
  | cons m ms ih =>
    cases ns with
    | nil => cases h
    | cons n ns =>
      rw [sameMembers, Bool.and_eq_true, Bool.and_eq_true] at h
      rw [List.forall_mem_cons] at hm
      rw [Prod.ext (eq_of_beq h.1.1) (hm.1 n.2 h.1.2), ih hm.2 h.2]

/-- Values that are the same are equal when there are no doubles among their numbers. -/
theorem eq_of_same {v w : Json} (hv : v.allWhole = true) (h : v.same w = true) : v = w := by
  rw [allWhole_iff] at hv
  induction v using rec_on_parts generalizing w with
  | null =>
    cases w with
    | null => rfl
    | _ => cases h
  | bool a =>
    cases w with
    | bool b => rw [eq_of_beq h]
    | _ => cases h
  | number m =>
    cases w with
    | number n => rw [Number.eq_of_same (everywhere_number.mp hv) h]
    | _ => cases h
  | string a =>
    cases w with
    | string b => rw [eq_of_beq h]
    | _ => cases h
  | list xs ih =>
    cases w with
    | list ys =>
      obtain ⟨-, hxs⟩ := everywhere_list_iff.mp hv
      rw [eq_of_sameElements (fun x hx y => ih x hx (hxs x hx)) h]
    | _ => cases h
  | object ms ih =>
    cases w with
    | object ns =>
      obtain ⟨-, hms⟩ := everywhere_object_iff.mp hv
      rw [eq_of_sameMembers (fun m hm y => ih m hm (hms m hm)) h]
    | _ => cases h

/-- Values that may be absent are equal when they are the same, too. -/
theorem eq_of_same_values {vs ws : List (Option Json)}
    (hv : ∀ v ∈ vs, v.all allWhole = true) (h : (vs == ws) = true) : vs = ws := by
  induction vs generalizing ws with
  | nil =>
    cases ws with
    | nil => rfl
    | cons w ws => cases h
  | cons v vs ih =>
    cases ws with
    | nil => cases h
    | cons w ws =>
      rw [List.cons_beq_cons, Bool.and_eq_true] at h
      rw [List.forall_mem_cons] at hv
      rw [ih hv.2 h.2]
      cases v with
      | none =>
        cases w with
        | none => rfl
        | some y => cases h.1
      | some x =>
        cases w with
        | none => cases h.1
        | some y => rw [eq_of_same hv.1 h.1]

/-- A value that is read back as the same is read back as itself. -/
theorem reread_eq_self_of_same {nesting : Nat} {v w : Json} (h : v.reread nesting = some w)
    (hs : w.same v = true) : v.reread nesting = some v := by
  induction v using rec_on_parts generalizing nesting w with
  | null | bool b | string s => rfl
  | number n =>
    rw [reread] at h ⊢
    obtain ⟨m, hm, rfl⟩ := Option.map_eq_some_iff.mp h
    rw [Number.isStable_of_same hm hs]
    rfl
  | list xs ih =>
    cases nesting with
    | zero => cases h
    | succ nesting =>
      rw [reread, rereadElements_eq_mapM] at h ⊢
      obtain ⟨ys, hys, rfl⟩ := Option.map_eq_some_iff.mp h
      rw [same] at hs
      have hself : ∀ x ∈ xs, reread nesting x = some x := by
        -- by induction on the elements, along with what they are read back as
        clear h
        induction xs generalizing ys with
        | nil => simp
        | cons x xs ihxs =>
          rw [List.mapM_cons] at hys
          obtain ⟨y, hy, hys⟩ := Option.bind_eq_some_iff.mp hys
          obtain ⟨ys, hys', hcons⟩ := Option.bind_eq_some_iff.mp hys
          cases hcons
          rw [sameElements, Bool.and_eq_true] at hs
          rw [List.forall_mem_cons] at ih ⊢
          exact ⟨ih.1 hy hs.1, ihxs ih.2 ys hys' hs.2⟩
      rw [mapM_eq_some_self_iff.mpr hself]
      rfl
  | object ms ih =>
    cases nesting with
    | zero => cases h
    | succ nesting =>
      rw [reread, rereadMembers_eq_mapM] at h ⊢
      obtain ⟨ns, hns, rfl⟩ := Option.map_eq_some_iff.mp h
      rw [same] at hs
      have hself : ∀ m ∈ ms, (reread nesting m.2).map (Prod.mk m.1) = some m := by
        clear h
        induction ms generalizing ns with
        | nil => simp
        | cons m ms ihms =>
          rw [List.mapM_cons] at hns
          obtain ⟨n, hn, hns⟩ := Option.bind_eq_some_iff.mp hns
          obtain ⟨ns, hns', hcons⟩ := Option.bind_eq_some_iff.mp hns
          obtain ⟨y, hy, rfl⟩ := Option.map_eq_some_iff.mp hn
          cases hcons
          rw [sameMembers, Bool.and_eq_true, Bool.and_eq_true] at hs
          rw [List.forall_mem_cons] at ih ⊢
          refine ⟨?_, ihms ih.2 ns hns' hs.2⟩
          rw [ih.1 hy hs.1.2]
          rfl
      rw [mapM_eq_some_self_iff.mpr hself]
      rfl

end Json

end BrokerNode
