-- SUMMARY: Trimming and lower case are done once: a second time changes nothing, and lower case brings no blanks to the ends of a text.
import Mathlib.Data.List.DropRight
import LinearDispatch.Label

/-!
# Normal forms of texts

A label is compared in lower case and without the blanks around it. That this
is a normal form rests on the table of case shifts: no character that a run of
the table moves lands in a run again, on the dotted capital I, or on a blank.
The runs are compared with each other, not the characters.
-/
namespace LinearDispatch

namespace Text

/-! ## Blanks at the ends -/

/-- No blank stands at either end. -/
structure Trimmed (cs : List Char) : Prop where
  head : ∀ c, cs.head? = some c → isBlank c = false
  last : ∀ c, cs.getLast? = some c → isBlank c = false

theorem trimEnd_eq (cs : List Char) : trimEnd cs = cs.rdropWhile isBlank := rfl

theorem trimmed_trim (cs : List Char) : Trimmed (trim cs) := by
  rw [trim, trimEnd_eq]
  constructor
  · intro c hc
    -- What is left begins as the list without its leading blanks does.
    have hprefix := List.rdropWhile_prefix isBlank (cs.dropWhile isBlank)
    have hhead : (cs.dropWhile isBlank).head? = some c := by
      obtain ⟨rest, hrest⟩ := List.head?_eq_some_iff.1 hc
      obtain ⟨suffix, hsuffix⟩ := hprefix
      rw [← hsuffix, hrest]
      rfl
    have hnot := List.head?_dropWhile_not isBlank cs
    rw [hhead] at hnot
    simpa using hnot
  · intro c hc
    obtain ⟨hne, rfl⟩ := List.mem_getLast?_eq_getLast hc
    simpa using List.rdropWhile_last_not isBlank _ hne

theorem trim_of_trimmed {cs : List Char} (h : Trimmed cs) : trim cs = cs := by
  have hdrop : cs.dropWhile isBlank = cs := by
    cases cs with
    | nil => rfl
    | cons c cs => rw [List.dropWhile_cons_of_neg (by simp [h.head c rfl])]
  rw [trim, hdrop, trimEnd_eq, List.rdropWhile_eq_self_iff]
  intro hne
  simp [h.last _ (List.getLast?_eq_getLast_of_ne_nil hne)]

@[simp] theorem strip_strip (s : String) : strip (strip s) = strip s := by
  simp [strip, trim_of_trimmed (trimmed_trim s.toList)]

/-- A character that is no blank ends the trimming. -/
theorem trimEnd_append_cons (cs ds : List Char) {c : Char} (hc : isBlank c = false) :
    trimEnd (cs ++ c :: ds) = cs ++ c :: trimEnd ds := by
  have hsplit : (cs ++ c :: ds).reverse = ds.reverse ++ c :: cs.reverse := by simp
  rw [trimEnd, trimEnd, hsplit, List.dropWhile_append]
  split
  · next hblank =>
    rw [List.isEmpty_iff] at hblank
    simp [hblank, List.dropWhile_cons_of_neg, hc]
  · simp

theorem trimEnd_append_of_blank (cs : List Char) {ds : List Char}
    (h : ∀ d ∈ ds, isBlank d = true) : trimEnd (cs ++ ds) = trimEnd cs := by
  rw [trimEnd, trimEnd, List.reverse_append, List.dropWhile_append_of_pos]
  simpa using h

@[simp] theorem trimEnd_trimEnd (cs : List Char) : trimEnd (trimEnd cs) = trimEnd cs := by
  rw [trimEnd_eq, trimEnd_eq, List.rdropWhile_idempotent]

/-- Blanks in front do not count, and what is no blank behind them starts the text. -/
theorem trim_append_cons {blanks : List Char} (h : ∀ b ∈ blanks, isBlank b = true) {c : Char}
    (hc : isBlank c = false) (cs : List Char) : trim (blanks ++ c :: cs) = c :: trimEnd cs := by
  rw [trim, List.dropWhile_append_of_pos h, List.dropWhile_cons_of_neg (by simp [hc])]
  exact trimEnd_append_cons [] cs hc

theorem trim_of_blank {cs : List Char} (h : ∀ c ∈ cs, isBlank c = true) : trim cs = [] := by
  have hdrop : cs.dropWhile isBlank = [] := List.dropWhile_eq_nil_iff.2 h
  rw [trim, hdrop]
  rfl

/-- A text is blank, or something stands in it behind its leading blanks. -/
theorem blank_or_exists_append_cons (cs : List Char) :
    (∀ c ∈ cs, isBlank c = true) ∨ ∃ blanks c rest, cs = blanks ++ c :: rest ∧
      (∀ b ∈ blanks, isBlank b = true) ∧ isBlank c = false := by
  induction cs with
  | nil => exact .inl (List.forall_mem_nil _)
  | cons c cs ih =>
    cases hc : isBlank c with
    | false => exact .inr ⟨[], c, cs, rfl, List.forall_mem_nil _, hc⟩
    | true =>
      rcases ih with hblank | ⟨blanks, d, rest, rfl, hblanks, hd⟩
      · exact .inl (List.forall_mem_cons.2 ⟨hc, hblank⟩)
      · exact .inr ⟨c :: blanks, d, rest, rfl, List.forall_mem_cons.2 ⟨hc, hblanks⟩, hd⟩

theorem trim_trimEnd (cs : List Char) : trim (trimEnd cs) = trim cs := by
  rcases blank_or_exists_append_cons cs with hblank | ⟨blanks, c, rest, rfl, hblanks, hc⟩
  · have hend : trimEnd cs = [] := trimEnd_append_of_blank [] hblank
    rw [hend, trim_of_blank hblank]
    rfl
  · rw [trimEnd_append_cons _ _ hc, trim_append_cons hblanks hc, trim_append_cons hblanks hc,
      trimEnd_trimEnd]

/-! ## Runs of a case mapping -/

namespace Shift

/-- The first code point that the run lands on. -/
def landsFrom (s : Shift) : Nat :=
  ((s.first : Int) + s.amount).toNat

/-- The last code point that the run may land on. -/
def landsTo (s : Shift) : Nat :=
  ((s.last : Int) + s.amount).toNat

/-- The run starts at a code point, moves it to one, and stays among those of characters. -/
def Lands (s : Shift) : Prop :=
  0 < s.first + s.amount ∧ (s.landsTo < 0xD800 ∨ 0xDFFF < s.landsFrom ∧ s.landsTo < 0x110000)

instance (s : Shift) : Decidable s.Lands :=
  inferInstanceAs (Decidable (_ ∧ _))

/-- Whether code points between two others stay outside the run: the run is behind them, or before
them, or they are `spaced` as every second one is and fall between its steps. -/
def avoids (t : Shift) (first last : Nat) (spaced : Bool) : Bool :=
  match (t.first - last) + (first - t.last) with
  | 0     => t.step == 2 && spaced && (first + t.first) % 2 == 1
  | _ + 1 => true

/-- Whether all that the run lands on is of the parity of the first. -/
def spaced (s : Shift) : Bool :=
  s.step == 2 || s.first == s.last

variable {s t : Shift} {n : Nat}

theorem covers_iff :
    s.covers n = true ↔ s.first ≤ n ∧ n ≤ s.last ∧ (n - s.first) % s.step = 0 := by
  simp [covers, and_assoc]

theorem not_covers_of_avoids (h : t.avoids s.landsFrom s.landsTo s.spaced = true) (hs : s.Lands)
    (hn : s.covers n = true) : t.covers ((n : Int) + s.amount).toNat = false := by
  rw [Bool.eq_false_iff]
  intro ht
  rw [covers_iff] at hn ht
  have hpos := hs.1
  have hgap : (t.first - s.landsTo) + (s.landsFrom - t.last) = 0 := by
    rw [landsFrom, landsTo]
    omega
  rw [avoids, hgap] at h
  simp only [Bool.and_eq_true, beq_iff_eq, spaced, Bool.or_eq_true, landsFrom] at h
  obtain ⟨⟨htwo, hspaced⟩, hodd⟩ := h
  rw [htwo] at ht
  rcases hspaced with hstep | hone
  · rw [hstep] at hn
    omega
  · omega

theorem toNat_ofNat (hs : s.Lands) (hn : s.covers n = true) :
    (Char.ofNat ((n : Int) + s.amount).toNat).toNat = ((n : Int) + s.amount).toNat := by
  rw [covers_iff] at hn
  obtain ⟨hpos, hrange⟩ := hs
  rw [landsFrom, landsTo] at hrange
  have hvalid : ((n : Int) + s.amount).toNat.isValidChar := by
    rcases hrange with hlow | hhigh
    · exact .inl (by omega)
    · exact .inr (by omega)
  rw [Char.ofNat, dif_pos hvalid]
  rfl

end Shift

/-- The blanks as runs that move nothing. -/
def blankRuns : List Shift :=
  [⟨0x09, 0x0D, 1, 0⟩, ⟨0x1C, 0x20, 1, 0⟩, ⟨0x85, 0x85, 1, 0⟩, ⟨0xA0, 0xA0, 1, 0⟩,
   ⟨0x1680, 0x1680, 1, 0⟩, ⟨0x2000, 0x200A, 1, 0⟩, ⟨0x2028, 0x2029, 1, 0⟩,
   ⟨0x202F, 0x202F, 1, 0⟩, ⟨0x205F, 0x205F, 1, 0⟩, ⟨0x3000, 0x3000, 1, 0⟩]

/-- The dotted capital I, which has a rule of its own. -/
def dottedRun : Shift :=
  ⟨0x130, 0x130, 1, 0⟩

theorem exists_blankRun_of_isBlank {c : Char} (h : isBlank c = true) :
    ∃ t ∈ blankRuns, t.covers c.toNat = true := by
  simp only [isBlank, Bool.or_eq_true, Bool.and_eq_true, decide_eq_true_eq, beq_iff_eq] at h
  simp only [blankRuns, List.mem_cons, List.not_mem_nil, or_false, exists_eq_or_imp,
    exists_eq_left, Shift.covers_iff, Nat.mod_one, and_true]
  omega

theorem lands_of_mem_lowerShifts : ∀ s ∈ lowerShifts, s.Lands := by
  decide +kernel

/-- No run of lower case lands in a run, on the dotted capital I or on a blank. -/
theorem lowerShifts_avoid :
    (lowerShifts.all fun s => (lowerShifts ++ dottedRun :: blankRuns).all
      (·.avoids s.landsFrom s.landsTo s.spaced)) = true := by
  decide +kernel

/-! ## Lower case -/

/-- Lower case leaves the character alone wherever it stands. -/
structure Lowered (c : Char) : Prop where
  ne_sigma : c ≠ 'Σ'
  fixed : lowerChar c = [c]

theorem shiftChar_eq_self {shifts : List Shift} {c : Char}
    (h : ∀ t ∈ shifts, t.covers c.toNat = false) : shiftChar shifts c = c := by
  have hnone : shifts.find? (·.covers c.toNat) = none :=
    List.find?_eq_none.2 fun t ht => by simp [h t ht]
  rw [shiftChar, hnone]

theorem lowered_of_not_covers {c : Char} (h : ∀ t ∈ lowerShifts, t.covers c.toNat = false)
    (hdotted : c ≠ 'İ') : Lowered c := by
  refine ⟨?_, by rw [lowerChar, if_neg hdotted, shiftChar_eq_self h]⟩
  rintro rfl
  have hsigma : ∃ t ∈ lowerShifts, t.covers 'Σ'.toNat = true := by decide +kernel
  obtain ⟨t, ht, hcovers⟩ := hsigma
  rw [h t ht] at hcovers
  cases hcovers

/-- A character outside of all runs is in lower case and no blank. -/
theorem lowered_of_misses {c : Char}
    (h : ∀ t ∈ lowerShifts ++ dottedRun :: blankRuns, t.covers c.toNat = false) :
    Lowered c ∧ isBlank c = false := by
  rw [List.forall_mem_append, List.forall_mem_cons] at h
  obtain ⟨hshifts, hdotted, hblanks⟩ := h
  refine ⟨lowered_of_not_covers hshifts ?_, Bool.eq_false_iff.2 fun hblank => ?_⟩
  · rintro rfl
    revert hdotted
    decide
  · obtain ⟨t, ht, hcovered⟩ := exists_blankRun_of_isBlank hblank
    rw [hblanks t ht] at hcovered
    cases hcovered

/-- The letters that come of the dotted capital I and of a capital sigma. -/
theorem lowered_of_mem_letters : ∀ c ∈ ['i', '\u0307', 'ς', 'σ'], Lowered c ∧ isBlank c = false := by
  have hmisses : (['i', '\u0307', 'ς', 'σ'].all fun c =>
      (lowerShifts ++ dottedRun :: blankRuns).all fun t => !t.covers c.toNat) = true := by
    decide +kernel
  intro c hc
  refine lowered_of_misses fun t ht => ?_
  simpa using List.all_eq_true.1 (List.all_eq_true.1 hmisses c hc) t ht

/-- What a character becomes is in lower case, and it is no blank if the character is none. -/
theorem lowered_of_mem_lowerChar {c d : Char} (hd : d ∈ lowerChar c) :
    Lowered d ∧ (isBlank c = false → isBlank d = false) := by
  rw [lowerChar] at hd
  split at hd
  · obtain ⟨hlowered, hblank⟩ := lowered_of_mem_letters d (List.mem_append_left ['ς', 'σ'] hd)
    exact ⟨hlowered, fun _ => hblank⟩
  · next hdotted =>
    obtain rfl := List.mem_singleton.1 hd
    cases hrun : lowerShifts.find? (·.covers c.toNat) with
    | none =>
      have hcovers : ∀ t ∈ lowerShifts, t.covers c.toNat = false := by
        simpa using List.find?_eq_none.1 hrun
      rw [shiftChar_eq_self hcovers]
      exact ⟨lowered_of_not_covers hcovers hdotted, id⟩
    | some s =>
      have hcovers := List.find?_some hrun
      have hs := List.mem_of_find?_eq_some hrun
      have hlands := lands_of_mem_lowerShifts s hs
      obtain ⟨hlowered, hblank⟩ := lowered_of_misses (c := shiftChar lowerShifts c) fun t ht => by
        have havoids := List.all_eq_true.1 (List.all_eq_true.1 lowerShifts_avoid s hs) t ht
        rw [shiftChar, hrun, Shift.toNat_ofNat hlands hcovers]
        exact Shift.not_covers_of_avoids havoids hlands hcovers
      exact ⟨hlowered, fun _ => hblank⟩

theorem lowerChar_ne_nil (c : Char) : lowerChar c ≠ [] := by
  rw [lowerChar]
  split <;> simp

/-- The first character of a text has its letters in front, which are in lower case, and no blanks
if the character is none. -/
theorem exists_lowerAfter_cons (cased : Bool) (c : Char) (cs : List Char) :
    ∃ ds, lowerAfter cased (c :: cs) = ds ++ lowerAfter (casedAfter cased c) cs ∧ ds ≠ [] ∧
      ∀ d ∈ ds, Lowered d ∧ (isBlank c = false → isBlank d = false) := by
  refine ⟨_, rfl, ?_⟩
  by_cases hc : c = 'Σ'
  · rw [if_pos hc]
    refine ⟨by split <;> simp, fun d hd => ?_⟩
    have hmem : d ∈ ['i', '\u0307', 'ς', 'σ'] := by
      split at hd <;> simp only [List.mem_singleton] at hd <;> simp [hd]
    obtain ⟨hlowered, hblank⟩ := lowered_of_mem_letters d hmem
    exact ⟨hlowered, fun _ => hblank⟩
  · rw [if_neg hc]
    exact ⟨lowerChar_ne_nil c, fun _ => lowered_of_mem_lowerChar⟩

theorem lowered_of_mem_lowerAfter {cased : Bool} {cs : List Char} :
    ∀ d ∈ lowerAfter cased cs, Lowered d := by
  induction cs generalizing cased with
  | nil => exact List.forall_mem_nil _
  | cons c cs ih =>
    obtain ⟨ds, heq, -, hds⟩ := exists_lowerAfter_cons cased c cs
    rw [heq, List.forall_mem_append]
    exact ⟨fun d hd => (hds d hd).1, ih⟩

theorem lowerAfter_of_lowered {cased : Bool} {cs : List Char} (h : ∀ c ∈ cs, Lowered c) :
    lowerAfter cased cs = cs := by
  induction cs generalizing cased with
  | nil => rfl
  | cons c cs ih =>
    rw [List.forall_mem_cons] at h
    rw [lowerAfter, if_neg h.1.ne_sigma, h.1.fixed, ih h.2, List.singleton_append]

@[simp] theorem lower_lower (s : String) : lower (lower s) = lower s := by
  rw [lower, lower, String.toList_ofList, lowerAfter_of_lowered lowered_of_mem_lowerAfter]

theorem Trimmed.lowerAfter {cs : List Char} (h : Trimmed cs) (cased : Bool) :
    Trimmed (lowerAfter cased cs) := by
  constructor
  · cases cs with
    | nil => exact nofun
    | cons c cs =>
      obtain ⟨ds, heq, hne, hds⟩ := exists_lowerAfter_cons cased c cs
      obtain ⟨d, ds, rfl⟩ := List.exists_cons_of_ne_nil hne
      intro x hx
      rw [heq, List.cons_append, List.head?_cons, Option.some.injEq] at hx
      subst hx
      exact (hds d (List.mem_cons_self ..)).2 (h.head c rfl)
  · have hlast := h.last
    clear h
    induction cs generalizing cased with
    | nil => exact nofun
    | cons c cs ih =>
      obtain ⟨ds, heq, hne, hds⟩ := exists_lowerAfter_cons cased c cs
      intro x hx
      cases cs with
      | nil =>
        rw [heq, Text.lowerAfter, List.append_nil] at hx
        exact (hds x (List.mem_of_getLast? hx)).2 (hlast c rfl)
      | cons c' cs =>
        -- Later characters have letters, too, and the last of them ends the text.
        obtain ⟨ds', heq', hne', -⟩ := exists_lowerAfter_cons (casedAfter cased c) c' cs
        refine ih (casedAfter cased c) (fun y hy => hlast y (by simpa using hy)) x ?_
        rwa [heq, List.getLast?_append_of_ne_nil _ (by rw [heq']; simp [hne'])] at hx

theorem strip_lower_strip (s : String) : strip (lower (strip s)) = lower (strip s) := by
  have htrimmed := (trimmed_trim s.toList).lowerAfter false
  rw [strip, lower, strip, String.toList_ofList, String.toList_ofList, trim_of_trimmed htrimmed]

end Text

/-! ## Labels -/

/-- A normal form is its own normal form. -/
theorem Label.normalize_of_normalize {label : Label} {key : String}
    (h : label.normalize = some key) : (Label.text key).normalize = some key := by
  obtain ⟨s, -, rfl⟩ := Option.map_eq_some_iff.1 h
  simp only [normalize, text?, Option.map_some, Text.strip_lower_strip, Text.lower_lower]

end LinearDispatch
