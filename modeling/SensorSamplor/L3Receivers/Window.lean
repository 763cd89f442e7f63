import SensorSamplor.L3Receivers.LastSamples

/-!
# What a series is sure to hold

Samples of one sensor with the same keys, in any order of arrival, with any
number of equal time stamps and of redeliveries. An eviction can make a
series shorter, and an entry cut off before can come back, but the `n - 1`
greatest time stamps offered so far are always there, and so the last entry
of a series of two or more is the latest of all (`window_guaranteed`).

The invariant is about ranks alone: a series holds time stamps that were
offered, and among them the `n - 1` greatest (`seriesOf_covers`); its step is
`greatest_insert_subset`.
-/
namespace SensorSamplor.SampleCollection

open SensorSamplor.Core

/-- All samples of a sensor have the same keys. -/
def SameKeys (xs : List Sample) : Prop :=
  ∀ a ∈ xs, ∀ b ∈ xs, a.node = b.node → ∀ k, k ∈ a.data → k ∈ b.data

/-- The time stamps of the samples with a value for a series. -/
def offered (p t k : String) (xs : List Sample) : Finset Int :=
  millisOf ((ofNode (p, t) xs).filter fun s => decide (k ∈ s.data))

/-- A series holds an entry for each of the `n - 1` greatest of the given
time stamps; with `n` at least two its last entry has the greatest. -/
structure Window (n : Int) (times : Finset Int) (tuples : Series) : Prop where
  covers : ∀ m ∈ greatest (n - 1).toNat times, ∃ e ∈ tuples.keys, e.timestamp.millis = m
  last : 2 ≤ n → ∃ e, tuples.keys.getLast? = some e ∧ e.timestamp.millis ∈ times ∧
    ∀ m ∈ times, m ≤ e.timestamp.millis

theorem seriesOf_covers {n : Int} {ys : List Sample} (h : ∀ a ∈ ys, ∀ b ∈ ys, ∀ k, k ∈ a.data → k ∈ b.data)
    {k : String} {tuples : Series} (ht : seriesOf n ys k = some tuples) :
    tuples.ranks ⊆ millisOf ys ∧ greatest (n - 1).toNat (millisOf ys) ⊆ tuples.ranks := by
  induction ys using List.reverseRecOn generalizing tuples with
  | nil => cases ht
  | append_singleton ys x ih =>
    have hx : x ∈ ys ++ [x] := by simp
    -- the new sample has the key, as all of them have
    obtain ⟨y, hy, hky⟩ := (seriesOf_isSome n (ys ++ [x]) k).1 (by rw [ht]; rfl)
    obtain ⟨v, hv⟩ := Dict.exists_lookup (h y hy x hx k hky)
    rw [seriesOf_concat, hv, Option.some.injEq,
      previous_of_keys n fun z hz => h x hx z (List.mem_append_left _ hz)] at ht
    subst ht
    rw [ranks_slide, millisOf_concat]
    -- what the series held before, also when there was none
    have hbefore : ((seriesOf n ys k).getD .empty).ranks ⊆ millisOf ys ∧
        greatest (n - 1).toNat (millisOf ys) ⊆ ((seriesOf n ys k).getD .empty).ranks := by
      cases hs : seriesOf n ys k with
      | some tuples =>
        exact ih (fun a ha b hb => h a (List.mem_append_left _ ha) b (List.mem_append_left _ hb)) hs
      | none =>
        have hys : ys = [] := by
          by_contra hne
          obtain ⟨z, hz⟩ := List.exists_mem_of_ne_nil ys hne
          have hkz := h y hy z (List.mem_append_left _ hz) k hky
          simpa [hs] using (seriesOf_isSome n ys k).2 ⟨z, hz, hkz⟩
        subst hys
        exact ⟨Finset.empty_subset _, Finset.empty_subset _⟩
    refine ⟨?_, greatest_insert_subset hbefore.1 hbefore.2⟩
    exact Finset.insert_subset_insert _ ((greatest_subset _ _).trans hbefore.1)

/-- A series that covers the greatest time stamps offered is a window of them. -/
theorem window_of_covers {n : Int} {times : Finset Int} {tuples : Series} (hne : times.Nonempty)
    (hsub : tuples.ranks ⊆ times) (hcover : greatest (n - 1).toNat times ⊆ tuples.ranks) :
    Window n times tuples := by
  refine ⟨fun m hm => TreeKeys.mem_ranks.1 (hcover hm), fun hn => ?_⟩
  obtain ⟨m, hm, hmax⟩ := Finset.exists_max_image times id hne
  have hnone : above times m = ∅ :=
    Finset.filter_eq_empty_iff.2 fun a ha => not_lt.2 (hmax a ha)
  have hmg : m ∈ greatest (n - 1).toNat times := by
    rw [mem_greatest, hnone, Finset.card_empty]
    exact ⟨hm, by omega⟩
  obtain ⟨e, he, rfl⟩ := TreeKeys.mem_ranks.1 (hcover hmg)
  refine ⟨e, TreeKeys.getLast?_of_greatest he fun x hx => ?_, hm, hmax⟩
  exact hmax _ (hsub (TreeKeys.mem_ranks.2 ⟨x, hx, rfl⟩))

theorem After.window {n : Int} {xs : List Sample} {c : SampleCollection} (h : After n xs c)
    (hkeys : SameKeys xs) {p t k : String} {tuples : Series} (ht : c.seriesAt p t k = some tuples) :
    Window n (offered p t k xs) tuples := by
  rw [seriesAt, h.sensors] at ht
  have hsame : ∀ a ∈ ofNode (p, t) xs, ∀ b ∈ ofNode (p, t) xs, ∀ k, k ∈ a.data → k ∈ b.data := by
    intro a ha b hb
    rw [mem_ofNode] at ha hb
    exact hkeys a ha.1 b hb.1 (ha.2.trans hb.2.symm)
  obtain ⟨s, hs, hk⟩ := (seriesOf_isSome n (ofNode (p, t) xs) k).1 (by rw [seriesOf, ht]; rfl)
  -- all samples of the sensor are offered to the series
  have hall : offered p t k xs = millisOf (ofNode (p, t) xs) := by
    unfold offered
    rw [List.filter_eq_self.2 fun a ha => decide_eq_true (hsame s hs a ha k hk)]
  obtain ⟨hsub, hcover⟩ := seriesOf_covers hsame ht
  rw [hall]
  exact window_of_covers ⟨_, mem_millisOf.2 ⟨s, hs, rfl⟩⟩ hsub hcover

/-- **The window.** When all samples of a sensor have the same keys, then
after each of them every series holds the `n - 1` greatest time stamps
offered to it so far, and with `n` at least two it ends with the greatest. -/
theorem window_guaranteed {n : Int} (hn : 1 ≤ n) (xs : List Sample) (hkeys : SameKeys xs) :
    ∀ ys, ys <+: xs → ∃ c, addAll (new n) ys = .ok c ∧
      (∀ s ∈ ys, ∀ k ∈ s.data, (c.seriesAt s.platformIdentifier s.sensorType k).isSome = true) ∧
      ∀ p t k tuples, c.seriesAt p t k = some tuples → Window n (offered p t k ys) tuples := by
  intro ys hys
  obtain ⟨c, hc, h⟩ := addAll_spec hn ys
  have hkeys' : SameKeys ys := fun a ha b hb => hkeys a (hys.subset ha) b (hys.subset hb)
  refine ⟨c, hc, fun s hs k hk => ?_, fun p t k tuples ht => h.window hkeys' ht⟩
  exact ((h.represents hn).keys _ _ k).2 ⟨s, hs, rfl, hk⟩

/-- The readings 2, 1, 2 of a sensor, the first one delivered twice. -/
theorem redeliveredReading_window : ∃ c, addAll (new 2) ([2, 1, 2].map readingAt) = .ok c ∧
    (∀ s ∈ [2, 1, 2].map readingAt, ∀ k ∈ s.data,
      (c.seriesAt s.platformIdentifier s.sensorType k).isSome = true) ∧
    ∀ p t k tuples, c.seriesAt p t k = some tuples →
      Window 2 (offered p t k ([2, 1, 2].map readingAt)) tuples := by
  refine window_guaranteed (by decide) ([2, 1, 2].map readingAt) ?_ _ (List.prefix_refl _)
  simp only [SameKeys, List.mem_map]
  rintro _ ⟨a, -, rfl⟩ _ ⟨b, -, rfl⟩ - k hk
  exact (AList.mem_insert ∅).2 ((AList.mem_insert ∅).1 hk)

end SensorSamplor.SampleCollection
