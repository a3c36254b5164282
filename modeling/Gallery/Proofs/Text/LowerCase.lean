import Gallery.Text.LowerCase
import Mathlib.Data.List.Basic

/-!
# Lower case is final

A character is lower when it is its own lower case.  All characters of a text in lower case are
lower (`isLower_of_mem_lower`), as no image of a letter in the table is one of these letters again.
A text of lower characters is its own lower case (`lower_eq_self`), as there is no capital sigma in
it whose form could depend on its place.
-/

namespace Gallery.Text

/-- The images of the letters of one run lie apart from the letters of another: behind them, before
them, or every one between two of them. -/
def CaseRun.apart (r s : CaseRun) : Bool :=
  s.last.blt r.image || (r.image + (r.last - r.first)).blt s.first
    || (s.step.beq 2 && (r.step.beq 2 || r.first.beq r.last)
      && !(r.image % 2).beq (s.first % 2))

/-- The character is its own lower case. -/
def IsLower (c : Char) : Prop :=
  lowerChar c = [c]

instance (c : Char) : Decidable (IsLower c) :=
  inferInstanceAs (Decidable (_ = _))

/-! ### The table -/

namespace CaseRun

variable {r s : CaseRun} {n m : Nat}

theorem bounds_of_image? (h : r.image? n = some m) :
  r.image ≤ m ∧ m ≤ r.image + (r.last - r.first) ∧ (m - r.image) % r.step = 0
  := by
  unfold image? at h
  split at h
  case isTrue hletter =>
    simp only [Bool.and_eq_true, decide_eq_true_eq, beq_iff_eq] at hletter
    obtain ⟨⟨hfirst, hlast⟩, hstep⟩ := hletter
    obtain rfl := Option.some.inj h
    rw [Nat.add_sub_cancel_left]
    omega
  case isFalse => cases h

/-- What lies apart from the letters of a run is not one of them. -/
theorem image?_eq_none_of_apart (h : r.apart s = true) (hm : r.image? n = some m) :
  s.image? m = none
  := by
  obtain ⟨hfirst, hlast, hstep⟩ := bounds_of_image? hm
  rw [image?, if_neg]
  simp only [apart, Bool.or_eq_true, Bool.and_eq_true, Bool.not_eq_true', Nat.blt_eq, Nat.beq_eq,
    ← Bool.not_eq_true, decide_eq_true_eq, beq_iff_eq] at h ⊢
  rintro ⟨⟨hsfirst, hslast⟩, hsstep⟩
  obtain (hbehind | hbefore) | ⟨⟨hstwo, hrtwo | hsingle⟩, hparity⟩ := h
  · omega
  · omega
  · rw [hrtwo] at hstep
    rw [hstwo] at hsstep
    omega
  · rw [hstwo] at hsstep
    omega

end CaseRun

/-- The images of capital letters are not capital letters. -/
theorem apart_of_mem_capitalRuns {r s : CaseRun} (hr : r ∈ capitalRuns) (hs : s ∈ capitalRuns) :
  r.apart s = true
  := by
  have hall : (capitalRuns.all fun r => capitalRuns.all r.apart) = true := by
    decide +kernel
  rw [List.all_eq_true] at hall
  apply List.all_eq_true.mp (hall r hr) s hs

/-- The images of capital letters are characters, and none of them is the dotted capital I. -/
theorem image_of_mem_capitalRuns :
  ∀ r ∈ capitalRuns, (r.image + (r.last - r.first) < 0xD800
      ∨ 0xDFFF < r.image ∧ r.image + (r.last - r.first) < 0x110000)
    ∧ (r.image + (r.last - r.first) < 'İ'.toNat ∨ 'İ'.toNat < r.image)
  := by
  decide +kernel

/-! ### Characters -/

theorem isLower_of_findSome?_eq_none {c : Char} (hdotted : c ≠ 'İ')
    (h : capitalRuns.findSome? (·.image? c.toNat) = none) :
  IsLower c
  := by
  rw [IsLower, lowerChar, if_neg hdotted, h]

/-- The image of a capital letter is its own lower case. -/
theorem isLower_image {r : CaseRun} {n m : Nat} (hr : r ∈ capitalRuns) (hm : r.image? n = some m) :
  IsLower (Char.ofNat m)
  := by
  obtain ⟨hfirst, hlast, -⟩ := CaseRun.bounds_of_image? hm
  obtain ⟨hchar, hdotted⟩ := image_of_mem_capitalRuns r hr
  have hvalid : m.isValidChar := by
    obtain hbelow | ⟨habove, hmax⟩ := hchar
    · left
      omega
    · right
      omega
  have hnat : (Char.ofNat m).toNat = m := by
    rw [Char.ofNat, dif_pos hvalid]
    rfl
  apply isLower_of_findSome?_eq_none
  · intro heq
    rw [← heq, hnat] at hdotted
    omega
  · rw [hnat, List.findSome?_eq_none_iff]
    intro s hs
    apply CaseRun.image?_eq_none_of_apart (apart_of_mem_capitalRuns hr hs) hm

/-- What the lower case of a character is made of is its own lower case. -/
theorem isLower_of_mem_lowerChar {c d : Char} (h : d ∈ lowerChar c) :
  IsLower d
  := by
  unfold lowerChar at h
  split at h
  case isTrue =>
    have hparts : IsLower 'i' ∧ IsLower '\u0307' := by
      decide +kernel
    simp only [List.mem_cons, List.not_mem_nil, or_false] at h
    obtain rfl | rfl := h
    · exact hparts.1
    · exact hparts.2
  case isFalse hdotted =>
    split at h
    case h_1 m hm =>
      obtain rfl := List.mem_singleton.mp h
      obtain ⟨r, hr, himage⟩ := List.exists_of_findSome?_eq_some hm
      apply isLower_image hr himage
    case h_2 hnone =>
      obtain rfl := List.mem_singleton.mp h
      apply isLower_of_findSome?_eq_none hdotted hnone

theorem isLower_lowerSigma (before after : List Char) :
  IsLower (lowerSigma before after)
  := by
  have hforms : IsLower 'ς' ∧ IsLower 'σ' := by
    decide +kernel
  unfold lowerSigma
  split
  · exact hforms.1
  · exact hforms.2

theorem IsLower.ne_sigma {c : Char} (h : IsLower c) :
  c ≠ 'Σ'
  := by
  rintro rfl
  exact absurd h (by decide +kernel)

/-! ### Texts -/

theorem isLower_of_mem_lowerAfter {before cs : List Char} {d : Char}
    (h : d ∈ lowerAfter before cs) :
  IsLower d
  := by
  induction cs generalizing before with
  | nil => cases h
  | cons c cs ih =>
    rw [lowerAfter, List.mem_append] at h
    obtain hd | hd := h
    · split at hd
      case isTrue =>
        obtain rfl := List.mem_singleton.mp hd
        apply isLower_lowerSigma
      case isFalse => apply isLower_of_mem_lowerChar hd
    · apply ih hd

/-- All characters of a text in lower case are lower. -/
theorem isLower_of_mem_lower {s : String} {d : Char} (h : d ∈ (lower s).toList) :
  IsLower d
  := by
  rw [lower, String.toList_ofList] at h
  apply isLower_of_mem_lowerAfter h

theorem lowerAfter_eq_self {cs : List Char} (h : ∀ c ∈ cs, IsLower c) (before : List Char) :
  lowerAfter before cs = cs
  := by
  induction cs generalizing before with
  | nil => rfl
  | cons c cs ih =>
    obtain ⟨hc, hcs⟩ := List.forall_mem_cons.mp h
    rw [lowerAfter, if_neg hc.ne_sigma, hc, ih hcs, List.singleton_append]

/-- A text of lower characters is its own lower case. -/
theorem lower_eq_self {s : String} (h : ∀ c ∈ s.toList, IsLower c) :
  lower s = s
  := by
  rw [lower, lowerAfter_eq_self h, String.ofList_toList]

@[simp]
theorem lower_lower (s : String) :
  lower (lower s) = lower s
  := lower_eq_self fun _ => isLower_of_mem_lower

end Gallery.Text
