import Mathlib.Data.List.Forall2
import Shortlist.Proofs.Text.Characters
import Shortlist.Text.Lowercase

/-!
# Texts that differ in letter case

Two texts are case variants of each other if they are equally long and the code points at every
place have the same lower-case form, each on its own.  Their lower-case forms as texts are then
equal, but for the capital sigma: where it ends a word it becomes a final sigma, and the small sigma
in the same place stays as it is (`lower_eq_iff`).

Nothing else can come between them.  Lower-casing looks at the neighbours of a capital sigma only to
see whether they are cased or skipped, and both are properties that code points with the same
lower-case form share (`SameLetter.isCased_eq`).  So a place ends a word in both texts or in
neither.
-/

namespace Shortlist.Text

/-! ## Ranges -/

namespace CharRanges

variable {ranges others : CharRanges} {first last n : Nat}

lemma holdsCode_eq_true : ranges.holdsCode n = true ↔ ∃ r ∈ ranges, r.1 ≤ n ∧ n ≤ r.2 := by
  simp [holdsCode]

/-- Whether one range of the set holds all numbers from the first to the last. -/
def covers (ranges : CharRanges) (first last : Nat) : Bool :=
  ranges.any fun r => Nat.ble r.1 first && Nat.ble last r.2

lemma holdsCode_of_covers (h : ranges.covers first last = true) (hfirst : first ≤ n)
    (hlast : n ≤ last) : ranges.holdsCode n = true := by
  simp only [covers, List.any_eq_true, Bool.and_eq_true, Nat.ble_eq] at h
  obtain ⟨r, hr, hbegin, hend⟩ := h
  exact holdsCode_eq_true.2 ⟨r, hr, hbegin.trans hfirst, hlast.trans hend⟩

/-- The order of ranges in a set: each ends before the next one begins. -/
def Precedes (r s : Nat × Nat) : Prop := r.1 ≤ r.2 ∧ r.2 < s.1

instance : DecidableRel Precedes := fun r s => inferInstanceAs (Decidable (r.1 ≤ r.2 ∧ r.2 < s.1))

instance : Trans Precedes Precedes Precedes := ⟨fun h h' => ⟨h.1, h.2.trans (h'.1.trans_lt h'.2)⟩⟩

/-- Whether two sets have no number in common.  It is enough to pass once over both if they are in
order: what ends before a range of the first set begins is left behind. -/
def apart : CharRanges → CharRanges → Bool
  | [], _ => true
  | r :: ranges, others =>
    let rest := others.dropWhile fun s => Nat.blt s.2 r.1
    (rest.head?.all fun s => Nat.blt r.2 s.1) && apart ranges rest

lemma lt_or_lt_of_apart (h : apart ranges others = true) (hranges : ranges.Pairwise Precedes)
    (hothers : others.Pairwise Precedes) : ∀ r ∈ ranges, ∀ s ∈ others, s.2 < r.1 ∨ r.2 < s.1 := by
  induction ranges generalizing others with
  | nil => nofun
  | cons r ranges ih =>
    obtain ⟨hafter, hranges⟩ := List.pairwise_cons.1 hranges
    rw [apart] at h
    generalize hrest : others.dropWhile (fun s => Nat.blt s.2 r.1) = rest at h
    obtain ⟨hhead, hapart⟩ := Bool.and_eq_true_iff.1 h
    have hsorted : rest.Pairwise Precedes :=
      hrest ▸ hothers.sublist (List.dropWhile_sublist _)
    -- the ranges that are skipped end before `r` and so before everything after it
    have hpassed : ∀ s ∈ others, s.2 < r.1 ∨ s ∈ rest := by
      intro s hs
      rw [← List.takeWhile_append_dropWhile
        (p := fun s : Nat × Nat => Nat.blt s.2 r.1) (l := others),
        List.mem_append, hrest] at hs
      refine hs.imp_left fun hs => ?_
      have hblt := List.mem_takeWhile_imp hs
      simpa using hblt
    have hahead : ∀ s ∈ rest, r.2 < s.1 := by
      cases rest with
      | nil => nofun
      | cons s₀ rest =>
        have hfirst : r.2 < s₀.1 := by simpa using hhead
        intro s hs
        rcases List.mem_cons.1 hs with rfl | hs
        · exact hfirst
        · obtain ⟨hle, hlt⟩ := (List.pairwise_cons.1 hsorted).1 s hs
          exact hfirst.trans (hle.trans_lt hlt)
    intro r' hr' s hs
    rcases List.mem_cons.1 hr' with rfl | hr'
    · exact (hpassed s hs).imp_right (hahead s)
    · rcases hpassed s hs with hlt | hs
      · obtain ⟨hle, hlt'⟩ := hafter r' hr'
        exact .inl (hlt.trans (hle.trans_lt hlt'))
      · exact ih hapart hranges hsorted r' hr' s hs

end CharRanges

/-! ## Capitals -/

variable {p q : CodePoint} {n : Nat}

/-- The capitals of the table are cased, and so is every character to which one of them moves. -/
lemma holdsCode_of_mem_capitalRuns {first last step distance : Nat} {up : Bool}
    (hrun : (first, last, step, up, distance) ∈ capitalRuns) (hfirst : first ≤ n) (hlast : n ≤ last)
    (hstep : (n - first) % step = 0) :
    casedRanges.holdsCode n = true
      ∧ casedRanges.holdsCode (if up then n + distance else n - distance) = true := by
  -- a run lies within one range, but for one that has unassigned code points between its capitals
  -- and is followed step by step
  have htable : ∀ run ∈ capitalRuns,
      (casedRanges.covers run.1 run.2.1 = true
        ∨ ∀ k < (run.2.1 - run.1) / run.2.2.1 + 1,
          casedRanges.holdsCode (run.1 + run.2.2.1 * k) = true)
      ∧ casedRanges.covers (if run.2.2.2.1 then run.1 + run.2.2.2.2 else run.1 - run.2.2.2.2)
        (if run.2.2.2.1 then run.2.1 + run.2.2.2.2 else run.2.1 - run.2.2.2.2) = true := by
    decide +kernel
  obtain ⟨hcapitals, hmoved⟩ := htable _ hrun
  constructor
  · rcases hcapitals with hcovers | hsteps
    · exact CharRanges.holdsCode_of_covers hcovers hfirst hlast
    · have hk := hsteps ((n - first) / step)
        (Nat.lt_succ_of_le (Nat.div_le_div_right (Nat.sub_le_sub_right hlast first)))
      have hvalue : first + step * ((n - first) / step) = n := by
        have := Nat.div_add_mod (n - first) step
        omega
      rwa [hvalue] at hk
  · dsimp only at hmoved
    refine CharRanges.holdsCode_of_covers hmoved ?_ ?_ <;> split <;> omega

/-- No cased code point is skipped. -/
lemma isCaseIgnorable_of_isCased (h : isCased p = true) : isCaseIgnorable p = false := by
  have hcased : casedRanges.Pairwise CharRanges.Precedes :=
    List.isChain_iff_pairwise.1 (by decide +kernel)
  have hignorable : caseIgnorableRanges.Pairwise CharRanges.Precedes :=
    List.isChain_iff_pairwise.1 (by decide +kernel)
  have hapart := CharRanges.lt_or_lt_of_apart
    (show CharRanges.apart casedRanges caseIgnorableRanges = true by decide +kernel) hcased
      hignorable
  obtain ⟨r, hr, hbegin, hend⟩ := CharRanges.holdsCode_eq_true.1 h
  rw [← Bool.not_eq_true]
  intro hskipped
  obtain ⟨s, hs, hbegin', hend'⟩ := CharRanges.holdsCode_eq_true.1 hskipped
  have := hapart r hr s hs
  omega

lemma isCased_ofNat (h : casedRanges.holdsCode n = true) : isCased (.ofNat n) = true := by
  have hbound : ∀ r ∈ casedRanges, r.2 < 0x110000 := by decide +kernel
  obtain ⟨r, hr, -, hend⟩ := CharRanges.holdsCode_eq_true.1 h
  rw [isCased, CodePoint.ofNat, dif_pos (hend.trans_lt (hbound r hr))]
  exact h

/-- The lower-case form of a code point is one code point that is cased or skipped like itself.  The
capital I with a dot is the only one that goes to two. -/
lemma exists_lowerAlone (hp : p.value ≠ 0x130) :
    ∃ q, lowerAlone p = [q] ∧ isCased q = isCased p ∧ isCaseIgnorable q = isCaseIgnorable p := by
  rw [lowerAlone, if_neg hp]
  split
  · next first last step up distance hrun =>
    have hholds := List.find?_some hrun
    simp only [Bool.and_eq_true, decide_eq_true_eq, beq_iff_eq] at hholds
    obtain ⟨⟨hfirst, hlast⟩, hstep⟩ := hholds
    obtain ⟨hcased, hmoved⟩ :=
      holdsCode_of_mem_capitalRuns (List.mem_of_find?_eq_some hrun) hfirst hlast hstep
    have hcased : isCased p = true := hcased
    have hcased' := isCased_ofNat hmoved
    exact ⟨_, rfl, by rw [hcased, hcased'], by
      rw [isCaseIgnorable_of_isCased hcased, isCaseIgnorable_of_isCased hcased']⟩
  · exact ⟨p, rfl, rfl, rfl⟩

/-! ## Case variants -/

/-- Two code points have the same lower-case form, each on its own. -/
def SameLetter (p q : CodePoint) : Prop := lowerAlone p = lowerAlone q

instance : DecidableRel SameLetter := fun p q =>
  inferInstanceAs (Decidable (lowerAlone p = lowerAlone q))

/-- Two texts are equally long, and the code points at every place have the same lower-case form,
each on its own. -/
def IsCaseVariant (s t : Text) : Prop := List.Forall₂ SameLetter s.points t.points

instance : DecidableRel IsCaseVariant := fun s t =>
  inferInstanceAs (Decidable (List.Forall₂ SameLetter s.points t.points))

/-- The capital letter whose lower-case form depends on its neighbours. -/
def capitalSigma : CodePoint := .ofChar 'Σ'

/-- A place in a text ends a word: before it the nearest code point that is not skipped is cased,
and behind it none is. -/
def EndsWord (t : Text) (n : Nat) : Prop :=
  nextIsCased (t.points.take n).reverse = true ∧ nextIsCased (t.points.drop (n + 1)) = false

instance {t : Text} {n : Nat} : Decidable (t.EndsWord n) := inferInstanceAs (Decidable (_ ∧ _))

/-- Code points with the same lower-case form are cased alike and skipped alike. -/
theorem SameLetter.isCased_eq (h : SameLetter p q) :
    isCased p = isCased q ∧ isCaseIgnorable p = isCaseIgnorable q := by
  have hdotted {p q : CodePoint} (hp : p.value = 0x130) (h : SameLetter p q) : p = q := by
    by_cases hq : q.value = 0x130
    · obtain ⟨value, lt⟩ := p
      obtain ⟨value', lt'⟩ := q
      obtain rfl : value = value' := hp.trans hq.symm
      rfl
    · obtain ⟨q', hone, -⟩ := exists_lowerAlone hq
      rw [SameLetter, hone, lowerAlone, if_pos hp] at h
      cases h
  by_cases hp : p.value = 0x130
  · rw [hdotted hp h]
    exact ⟨rfl, rfl⟩
  by_cases hq : q.value = 0x130
  · rw [hdotted hq h.symm]
    exact ⟨rfl, rfl⟩
  obtain ⟨p', hone, hcased, hskipped⟩ := exists_lowerAlone hp
  obtain ⟨q', hone', hcased', hskipped'⟩ := exists_lowerAlone hq
  rw [SameLetter, hone, hone', List.cons.injEq] at h
  rw [← hcased, ← hcased', ← hskipped, ← hskipped', h.1]
  exact ⟨rfl, rfl⟩

variable {ps qs before before' : List CodePoint}

lemma nextIsCased_congr (h : List.Forall₂ SameLetter ps qs) : nextIsCased ps = nextIsCased qs := by
  induction h with
  | nil => rfl
  | @cons p q _ _ hpq _ ih =>
    obtain ⟨hcased, hskipped⟩ := hpq.isCased_eq
    by_cases hp : isCaseIgnorable p = true
    · have hq : isCaseIgnorable q = true := hskipped ▸ hp
      rw [nextIsCased, nextIsCased, List.dropWhile_cons_of_pos hp, List.dropWhile_cons_of_pos hq]
      exact ih
    · have hq : ¬ isCaseIgnorable q = true := hskipped ▸ hp
      rw [nextIsCased, nextIsCased, List.dropWhile_cons_of_neg hp, List.dropWhile_cons_of_neg hq]
      exact hcased

/-- What a code point goes to between the given neighbours, nearest first. -/
def lowerAt (before : List CodePoint) (p : CodePoint) (after : List CodePoint) : List CodePoint :=
  if p = capitalSigma then [lowerSigma before after] else lowerAlone p

lemma lowerAfter_cons :
    lowerAfter before (p :: ps) = lowerAt before p ps ++ lowerAfter (p :: before) ps := by
  have hsigma : p.value = 0x3A3 ↔ p = capitalSigma := by
    rw [capitalSigma, CodePoint.ofChar, ← CodePoint.mk.injEq]
    rfl
  rw [lowerAfter, lowerAt]
  simp only [hsigma]

/-- On its own the capital sigma goes to the small sigma. -/
lemma lowerAlone_sigma : lowerAlone capitalSigma = [.ofChar 'σ'] := by decide +kernel

lemma length_lowerAt : (lowerAt before p ps).length = (lowerAlone p).length := by
  rw [lowerAt]
  split
  · next hp => rw [hp, lowerAlone_sigma, List.length_singleton, List.length_singleton]
  · rfl

lemma lowerSigma_eq_iff {after : List CodePoint} : lowerSigma before after = .ofChar 'σ'
    ↔ ¬ (nextIsCased before = true ∧ nextIsCased after = false) := by
  rw [lowerSigma]
  cases nextIsCased before <;> cases nextIsCased after <;> decide

/-- Code points with the same lower-case form go to the same between their neighbours, unless one
of them is a capital sigma that ends a word and the other one is none. -/
lemma lowerAt_eq_iff (hbefore : List.Forall₂ SameLetter before before') (h : SameLetter p q)
    (hafter : List.Forall₂ SameLetter ps qs) :
    lowerAt before p ps = lowerAt before' q qs
      ↔ (nextIsCased before = true ∧ nextIsCased ps = false →
        (p = capitalSigma ↔ q = capitalSigma)) := by
  have hsame : lowerSigma before' qs = lowerSigma before ps := by
    rw [lowerSigma, ← nextIsCased_congr hbefore, ← nextIsCased_congr hafter, lowerSigma]
  rw [lowerAt, lowerAt, hsame]
  by_cases hp : p = capitalSigma
  · by_cases hq : q = capitalSigma
    · simp only [hp, hq, if_true, implies_true]
    · have hone : lowerAlone q = [.ofChar 'σ'] := by rw [← h, hp, lowerAlone_sigma]
      rw [if_pos hp, if_neg hq, hone, List.cons.injEq, and_iff_left rfl, lowerSigma_eq_iff]
      simp only [hp, hq, true_iff, imp_false]
  · by_cases hq : q = capitalSigma
    · have hone : lowerAlone p = [.ofChar 'σ'] := by rw [h, hq, lowerAlone_sigma]
      rw [if_neg hp, if_pos hq, hone, List.cons.injEq, and_iff_left rfl, eq_comm, lowerSigma_eq_iff]
      simp only [hp, hq, iff_true, imp_false]
    · rw [if_neg hp, if_neg hq]
      exact iff_of_true h fun _ => iff_of_false hp hq

/-- Place by place: what has been lowered before counts as the neighbours on that side. -/
lemma lowerAfter_eq_iff (hbefore : List.Forall₂ SameLetter before before')
    (h : List.Forall₂ SameLetter ps qs) :
    lowerAfter before ps = lowerAfter before' qs
      ↔ ∀ n, nextIsCased ((ps.take n).reverse ++ before) = true ∧
        nextIsCased (ps.drop (n + 1)) = false
        → (ps[n]? = some capitalSigma ↔ qs[n]? = some capitalSigma) := by
  induction h generalizing before before' with
  | nil => simp [lowerAfter]
  | @cons p q ps qs hpq hrest ih =>
    have hlength : (lowerAt before p ps).length = (lowerAt before' q qs).length := by
      rw [length_lowerAt, length_lowerAt, hpq]
    have hsplit : lowerAfter before (p :: ps) = lowerAfter before' (q :: qs)
        ↔ lowerAt before p ps = lowerAt before' q qs
          ∧ lowerAfter (p :: before) ps = lowerAfter (q :: before') qs := by
      rw [lowerAfter_cons, lowerAfter_cons]
      exact ⟨fun heq => List.append_inj heq hlength, fun ⟨hhead, hlater⟩ => by rw [hhead, hlater]⟩
    rw [hsplit, lowerAt_eq_iff hbefore hpq hrest, ih (.cons hpq hbefore)]
    -- the first place, and the places behind it, which are those of the rest of the texts
    conv_rhs => rw [← Nat.and_forall_add_one]
    simp

/-- Case variants have the same lower-case form exactly if they have capital sigmas in the same
places among those that end a word. -/
theorem lower_eq_iff {s t : Text} (h : s.IsCaseVariant t) :
    s.lower = t.lower
      ↔ ∀ n, s.EndsWord n → (s.points[n]? = some capitalSigma
        ↔ t.points[n]? = some capitalSigma) := by
  rw [← points_inj, lower, lower, lowerAfter_eq_iff .nil h]
  simp only [List.append_nil, EndsWord]

end Shortlist.Text
