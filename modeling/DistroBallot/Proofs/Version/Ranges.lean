import DistroBallot.Proofs.Version.Sorting
import DistroBallot.Version.Constraint
import Mathlib

/-!
# Constraints as ranges of a sorted list

A bound cuts a sorted list into the versions older than it, those equal to it and the newer ones, in
this order (`sort_eq_before_equal_after`), and each operator selects some of these three ranges.

The versions equal to the bound need not be equal to each other, since the bound may tie with each
of them. So that they stand together cannot be told from equality. It is due to transitivity of being
older, and to the list itself: two of its versions that are equal have the same components, and
stand alike to every bound.
-/

namespace DistroBallot
namespace Version

variable {u v w c : Text} {l : List Text} {newestFirst : Bool}

/-! ## What operators admit -/

theorem isOlder_iff_compare_eq_gt : isOlder v w = true ↔ compare w v = .gt := by
  rw [isOlder, beq_iff_eq, ← compare_swap w v]
  cases compare w v <;> simp

theorem admits_before_iff : Constraint.admits ⟨.before, v⟩ c = true ↔ isOlder c v = true :=
  Iff.rfl

theorem admits_after_iff : Constraint.admits ⟨.after, v⟩ c = true ↔ isOlder v c = true := by
  rw [isOlder_iff_compare_eq_gt]
  exact beq_iff_eq

theorem admits_atMost_iff : Constraint.admits ⟨.atMost, v⟩ c = true ↔ ¬ isOlder v c = true := by
  rw [isOlder_iff_compare_eq_gt]
  exact bne_iff_ne

theorem admits_atLeast_iff : Constraint.admits ⟨.atLeast, v⟩ c = true ↔ ¬ isOlder c v = true := by
  rw [isOlder, beq_iff_eq]
  exact bne_iff_ne

/-! ## A newer bound -/

/-- A newer bound admits more from above and less from below. Only being older has to pass on for
that, so a candidate may tie with either bound. -/
theorem admits_of_isOlder (h : isOlder u v = true) (c : Text) :
    (Constraint.admits ⟨.before, u⟩ c = true → Constraint.admits ⟨.before, v⟩ c = true) ∧
    (Constraint.admits ⟨.atMost, u⟩ c = true → Constraint.admits ⟨.atMost, v⟩ c = true) ∧
    (Constraint.admits ⟨.after, v⟩ c = true → Constraint.admits ⟨.after, u⟩ c = true) ∧
    (Constraint.admits ⟨.atLeast, v⟩ c = true → Constraint.admits ⟨.atLeast, u⟩ c = true) := by
  simp only [admits_before_iff, admits_atMost_iff, admits_after_iff, admits_atLeast_iff]
  refine ⟨fun hc => isOlder_trans hc h, fun hc hv => hc (isOlder_trans h hv),
    fun hc => isOlder_trans h hc, fun hc hu => hc (isOlder_trans hu h)⟩

/-! ## Ranges -/

/-- The versions of a list that stand in an order to a bound. -/
def standing (o : Ordering) (v : Text) (l : List Text) : List Text :=
  l.filter (fun c => compare c v == o)

theorem filter_admits_standing (op : Operator) (o : Ordering) (v : Text) (l : List Text) :
    (standing o v l).filter (Constraint.admits ⟨op, v⟩) =
      if op.accepts o then standing o v l else [] := by
  have hsame : ∀ c ∈ standing o v l, Constraint.admits ⟨op, v⟩ c = op.accepts o := by
    intro c hc
    have horder : compare c v = o := beq_iff_eq.mp (List.mem_filter.mp hc).2
    rw [Constraint.admits, horder]
  cases haccepts : op.accepts o with
  | true =>
      rw [if_pos rfl, List.filter_eq_self]
      intro c hc
      rw [hsame c hc, haccepts]
  | false =>
      rw [if_neg Bool.false_ne_true, List.filter_eq_nil_iff]
      intro c hc
      rw [hsame c hc, haccepts]
      exact Bool.false_ne_true

/-- What holds of a member of a list only if it holds of those before it holds of a beginning. -/
theorem eq_filter_append_filter_not {p : Text → Bool}
    (h : l.Pairwise fun earlier later => p later = true → p earlier = true) :
    l = l.filter p ++ l.filter (fun c => !p c) := by
  induction l with
  | nil => rfl
  | cons a rest ih =>
      have hrest := ih h.of_cons
      cases ha : p a with
      | true =>
          rw [List.filter_cons_of_pos ha, List.filter_cons_of_neg (by simp [ha]), List.cons_append,
            ← hrest]
      | false =>
          have hnone : ∀ b ∈ rest, p b = false := by
            intro b hb
            by_contra hpb
            rw [List.rel_of_pairwise_cons h hb (Bool.eq_true_of_not_eq_false hpb)] at ha
            cases ha
          have hpos : rest.filter p = [] := List.filter_eq_nil_iff.mpr (by simpa using hnone)
          have hneg : rest.filter (fun c => !p c) = rest :=
            List.filter_eq_self.mpr (by simpa using hnone)
          rw [List.filter_cons_of_neg (by simp [ha]), List.filter_cons_of_pos (by simp [ha]), hpos,
            hneg, List.nil_append]

/-- Of two versions that do not tie, the one that is not newer stands no higher to any bound. -/
theorem standing_mono (htie : ¬ Tie u w) (h : isOlder w u = false) (v : Text) :
    (compare w v = .lt → compare u v = .lt) ∧ (compare w v ≠ .gt → compare u v ≠ .gt) := by
  rcases isOlder_or_eq_of_not_isOlder h with hlt | heq
  · constructor
    · intro hw
      have hwv : isOlder w v = true := beq_iff_eq.mpr hw
      exact beq_iff_eq.mp (isOlder_trans hlt hwv)
    · intro hw hu
      have hvu : isOlder v u = true := isOlder_iff_compare_eq_gt.mpr hu
      exact hw (isOlder_iff_compare_eq_gt.mp (isOlder_trans hvu hlt))
  · -- equal versions of the list have the same components
    have hagree := (compare_eq_eq_iff.mp heq).resolve_right htie
    rw [compare_congr_left hagree]
    exact ⟨id, id⟩

/-- **A bound cuts a sorted list without ties into three ranges.** -/
theorem sort_eq_before_equal_after (h : ∀ u ∈ l, ∀ w ∈ l, ¬ Tie u w) (v : Text) :
    sort l false = standing .lt v (sort l false) ++ standing .eq v (sort l false) ++
      standing .gt v (sort l false) := by
  have hsorted := (weaklyOrdered_of_not_tie h).pairwise_sort false
  have hmono : (sort l false).Pairwise fun u w =>
      (compare w v = .lt → compare u v = .lt) ∧ (compare w v ≠ .gt → compare u v ≠ .gt) := by
    refine hsorted.imp_of_mem fun {u w} hu hw huw => ?_
    have hu' : u ∈ l := (sort_perm l false).subset hu
    have hw' : w ∈ l := (sort_perm l false).subset hw
    exact standing_mono (h u hu' w hw') (by simpa [mayPrecede] using huw) v
  generalize sort l false = sorted at hmono
  -- the older versions come first, and of the others the equal ones
  have hfirst := eq_filter_append_filter_not (p := fun c => compare c v == .lt)
    (hmono.imp fun h => by simpa using h.1)
  have hsecond := eq_filter_append_filter_not (p := fun c => compare c v != .gt)
    (l := sorted.filter fun c => !(compare c v == .lt))
    ((hmono.filter _).imp fun h => by simpa using h.2)
  have hequal : (sorted.filter fun c => !(compare c v == .lt)).filter
      (fun c => compare c v != .gt) = standing .eq v sorted := by
    rw [List.filter_filter, standing]
    refine List.filter_congr fun c _ => ?_
    cases compare c v <;> rfl
  have hnewer : (sorted.filter fun c => !(compare c v == .lt)).filter
      (fun c => !(compare c v != .gt)) = standing .gt v sorted := by
    rw [List.filter_filter, standing]
    refine List.filter_congr fun c _ => ?_
    cases compare c v <;> rfl
  rw [hequal, hnewer] at hsecond
  rw [List.append_assoc, ← hsecond]
  exact hfirst

/-- Each operator selects ranges of a sorted list. -/
theorem filter_sort_eq_ranges (h : ∀ u ∈ l, ∀ w ∈ l, ¬ Tie u w) (op : Operator) (v : Text) :
    (sort l false).filter (Constraint.admits ⟨op, v⟩) =
      (if op.accepts .lt then standing .lt v (sort l false) else []) ++
      (if op.accepts .eq then standing .eq v (sort l false) else []) ++
      (if op.accepts .gt then standing .gt v (sort l false) else []) := by
  rw [← filter_admits_standing op .lt, ← filter_admits_standing op .eq,
    ← filter_admits_standing op .gt, ← List.filter_append, ← List.filter_append,
    ← sort_eq_before_equal_after h v]

/-! ## Filtering and sorting -/

theorem WeaklyOrdered.filter (h : WeaklyOrdered l) (p : Text → Bool) :
    WeaklyOrdered (l.filter p) := by
  intro u hu v hv w hw
  exact h u (List.mem_of_mem_filter hu) v (List.mem_of_mem_filter hv) w (List.mem_of_mem_filter hw)

/-- Filtering a list and the same list sorted leaves the one sorted form of the other. -/
theorem StablySorted.filter {sorted : List Text} (h : StablySorted newestFirst l sorted)
    (p : Text → Bool) : StablySorted newestFirst (l.filter p) (sorted.filter p) where
  perm := h.perm.filter p
  ordered := h.ordered.filter p
  stable := by
    intro v hv
    have hpeers := congrArg (List.filter p) (h.stable v (List.mem_of_mem_filter hv))
    rw [peers, peers] at hpeers ⊢
    rw [List.filter_comm _ p, List.filter_comm _ p]
    exact hpeers

theorem WeaklyOrdered.filter_sort (h : WeaklyOrdered l) (p : Text → Bool) (newestFirst : Bool) :
    (sort l newestFirst).filter p = sort (l.filter p) newestFirst :=
  (h.filter p).eq_sort_of_stablySorted ((h.stablySorted_sort newestFirst).filter p)

theorem WeaklyOrdered.filter_sort_text (h : WeaklyOrdered l) (text : Option Text)
    (newestFirst : Bool) : Version.filter (sort l newestFirst) text =
      (Version.filter l text).map fun kept => sort kept newestFirst := by
  rw [Version.filter, Version.filter]
  cases Constraint.parse text with
  | error e => rfl
  | ok constraint =>
      have hfilter := h.filter_sort constraint.admits newestFirst
      exact congrArg Except.ok hfilter

/-- **Constraints select ranges of a sorted list.** On a list without ties every bound, also one
that ties with versions of the list, cuts the sorted list into the versions before it, those equal
to it and those after it, and the other operators select two of these ranges or the middle one.
Filtering commutes with sorting, by a constraint as by the text of one. On all versions, a newer
bound admits more from above and less from below. -/
theorem sort_splits_at_every_bound (l : List Text) :
    ((∀ u ∈ l, ∀ w ∈ l, ¬ Tie u w) →
      (∀ v,
        let matching (op : Operator) := (sort l false).filter (Constraint.admits ⟨op, v⟩)
        sort l false = matching .before ++ matching .equal ++ matching .after ∧
        matching .atMost = matching .before ++ matching .equal ∧
        matching .atLeast = matching .equal ++ matching .after ∧
        matching .notEqual = matching .before ++ matching .after ∧
        matching .equalTo = matching .equal) ∧
      ∀ newestFirst,
        (∀ constraint : Constraint, (sort l newestFirst).filter constraint.admits =
          sort (l.filter constraint.admits) newestFirst) ∧
        ∀ text, Version.filter (sort l newestFirst) text =
          (Version.filter l text).map fun kept => sort kept newestFirst) ∧
    ∀ u v, isOlder u v = true → ∀ c,
      (Constraint.admits ⟨.before, u⟩ c = true → Constraint.admits ⟨.before, v⟩ c = true) ∧
      (Constraint.admits ⟨.atMost, u⟩ c = true → Constraint.admits ⟨.atMost, v⟩ c = true) ∧
      (Constraint.admits ⟨.after, v⟩ c = true → Constraint.admits ⟨.after, u⟩ c = true) ∧
      (Constraint.admits ⟨.atLeast, v⟩ c = true → Constraint.admits ⟨.atLeast, u⟩ c = true) := by
  refine ⟨fun h => ⟨fun v => ?_, fun newestFirst => ?_⟩, fun u v huv => admits_of_isOlder huv⟩
  · have hsplit := sort_eq_before_equal_after h v
    simp only [filter_sort_eq_ranges h]
    refine ⟨?_, ?_, ?_, ?_, ?_⟩
    · simpa [Operator.accepts] using hsplit
    all_goals simp [Operator.accepts]
  · have hweak := weaklyOrdered_of_not_tie h
    exact ⟨fun constraint => hweak.filter_sort constraint.admits newestFirst,
      fun text => hweak.filter_sort_text text newestFirst⟩

/-- Four versions, two of which tie with `xx` though they are not equal to each other. -/
def candidates : List Text := ["y".toList, "x.2".toList, "a".toList, "x.1".toList]

/-- The versions that tie with the bound stand in the middle, and keep their own order. -/
theorem ranges_of_candidates : (∀ u ∈ candidates, ∀ w ∈ candidates, ¬ Tie u w) ∧
    Tie "x.1".toList "xx".toList ∧ Tie "x.2".toList "xx".toList ∧
    sort candidates false = ["a".toList] ++ ["x.1".toList, "x.2".toList] ++ ["y".toList] ∧
    (Version.filter candidates (some "<= xx".toList)).map (fun kept => sort kept false) =
      .ok ["a".toList, "x.1".toList, "x.2".toList] ∧
    isOlder "a".toList "xx".toList = true ∧
    Constraint.admits ⟨.atLeast, "a".toList⟩ "x.1".toList = true := by
  have hties : ∀ u ∈ candidates, ∀ w ∈ candidates, ¬ Tie u w := by decide +kernel
  have holder : isOlder "a".toList "xx".toList = true := by decide +kernel
  have hsort : ["a".toList, "x.1".toList, "x.2".toList, "y".toList] = sort candidates false :=
    (weaklyOrdered_of_not_tie hties).eq_sort_of_stablySorted
      ⟨by decide +kernel, by decide +kernel, by decide +kernel⟩
  obtain ⟨hsplits, hbounds⟩ := sort_splits_at_every_bound candidates
  obtain ⟨hranges, hfilters⟩ := hsplits hties
  refine ⟨hties, by decide +kernel, by decide +kernel, ?_, ?_, holder, ?_⟩
  · rw [(hranges "xx".toList).1, ← hsort]
    decide +kernel
  · rw [← (hfilters false).2, ← hsort]
    decide +kernel
  · exact (hbounds _ _ holder _).2.2.2 (by decide +kernel)

end Version
end DistroBallot
