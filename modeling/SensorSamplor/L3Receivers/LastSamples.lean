import SensorSamplor.L3Receivers.StoreRuns

/-!
# The last `n` samples in any order of arrival

A full series drops its oldest tuple before it looks at the new one, so a
sample that arrives late takes the place of a later one. For samples of one
sensor with the same keys and different time stamps, `keepsLatest_iff` says
which orders of arrival leave the `n` latest samples: those in which the
sample that arrives last is itself one of the `n` latest.

The law behind it is `seriesOf_ranks`: a series holds the sample that came
last and the `n - 1` latest of all others.
-/
namespace SensorSamplor.SampleCollection

open SensorSamplor.Core

/-- The time stamps of the samples. -/
def millisOf (xs : List Sample) : Finset Int := (xs.map (·.timestamp.millis)).toFinset

/-- The `n` latest samples: those with fewer than `n` later ones. -/
def latest (n : Nat) (xs : List Sample) : List Sample :=
  xs.filter fun s => decide (xs.countP (fun s' => s.timestamp.millis < s'.timestamp.millis) < n)

/-- Samples of one sensor, with the same keys and different time stamps. -/
structure OneSensor (xs : List Sample) : Prop where
  node : ∀ a ∈ xs, ∀ b ∈ xs, a.node = b.node
  keys : ∀ a ∈ xs, ∀ b ∈ xs, ∀ k, k ∈ a.data → k ∈ b.data
  times : (xs.map (·.timestamp.millis)).Nodup

theorem OneSensor.sublist {xs ys : List Sample} (h : OneSensor xs) (hs : ys.Sublist xs) : OneSensor ys :=
  ⟨fun a ha b hb => h.node a (hs.subset ha) b (hs.subset hb),
    fun a ha b hb => h.keys a (hs.subset ha) b (hs.subset hb), h.times.sublist (hs.map _)⟩

theorem mem_millisOf {xs : List Sample} {t : Int} : t ∈ millisOf xs ↔ ∃ s ∈ xs, s.timestamp.millis = t := by
  simp [millisOf]

theorem millisOf_concat (xs : List Sample) (x : Sample) :
    millisOf (xs ++ [x]) = insert x.timestamp.millis (millisOf xs) := by
  ext t
  simp [millisOf]

theorem OneSensor.eq_of_millis {xs : List Sample} (h : OneSensor xs) {a b : Sample} (ha : a ∈ xs)
    (hb : b ∈ xs) (ht : a.timestamp.millis = b.timestamp.millis) : a = b :=
  List.inj_on_of_nodup_map h.times ha hb ht

/-- The later samples are the time stamps above. -/
theorem OneSensor.countP_later {xs : List Sample} (h : OneSensor xs) (t : Int) :
    xs.countP (fun s => t < s.timestamp.millis) = (above (millisOf xs) t).card := by
  have hn := h.times.filter fun m => decide (t < m)
  have ha : above (millisOf xs) t = ((xs.map (·.timestamp.millis)).filter fun m => decide (t < m)).toFinset := by
    rw [List.toFinset_filter]
    simp [above, millisOf]
  rw [ha, List.toFinset_card_of_nodup hn, ← List.countP_eq_length_filter, List.countP_map]
  rfl

theorem OneSensor.mem_latest {xs : List Sample} (h : OneSensor xs) (n : Nat) {s : Sample} :
    s ∈ latest n xs ↔ s ∈ xs ∧ s.timestamp.millis ∈ greatest n (millisOf xs) := by
  rw [latest, List.mem_filter, decide_eq_true_eq, h.countP_later, mem_greatest]
  exact ⟨fun ⟨hs, hc⟩ => ⟨hs, mem_millisOf.2 ⟨s, hs, rfl⟩, hc⟩, fun ⟨hs, _, hc⟩ => ⟨hs, hc⟩⟩

/-! ## What a series holds -/

theorem ranks_slide (n : Int) (tuples : Series) (t : SampleTuple) :
    (slide n tuples t).ranks = insert t.rank (greatest (n - 1).toNat tuples.ranks) := by
  rw [slide, TreeKeys.ranks_put, TreeKeys.ranks_keep]

/-- A sample whose keys all earlier ones had finds the series that are stored. -/
theorem previous_of_keys (n : Int) {ys : List Sample} {s : Sample}
    (h : ∀ y ∈ ys, ∀ k, k ∈ s.data → k ∈ y.data) (k : String) :
    previous (sensorOf n ys) s k = (seriesOf n ys k).getD .empty := by
  rcases List.eq_nil_or_concat ys with rfl | ⟨zs, y, hys⟩
  · rfl
  have hy : y ∈ ys := by simp [hys]
  exact previous_of_forall (fun k' hk' => (seriesOf_isSome n ys k').2 ⟨y, hy, h y hy k' hk'⟩) k

/-- A series holds the last sample and the `n - 1` latest of the others. -/
theorem seriesOf_ranks {n : Int} {ys : List Sample} {x : Sample} (h : OneSensor (ys ++ [x])) {k : String}
    (hk : k ∈ x.data) : ∃ tuples, seriesOf n (ys ++ [x]) k = some tuples ∧
      tuples.ranks = insert x.timestamp.millis (greatest (n - 1).toNat (millisOf ys)) := by
  obtain ⟨v, hv⟩ := Dict.exists_lookup hk
  induction ys using List.reverseRecOn generalizing x v with
  | nil =>
    refine ⟨_, by rw [seriesOf_concat, hv], ?_⟩
    rw [ranks_slide]
    rfl
  | append_singleton zs y ih =>
    have hy : k ∈ y.data := h.keys x (by simp) y (by simp) k hk
    obtain ⟨w, hw⟩ := Dict.exists_lookup hy
    obtain ⟨tuples, ht, hranks⟩ := ih (h.sublist (List.sublist_append_left _ _)) hy w hw
    refine ⟨_, by rw [seriesOf_concat, hv], ?_⟩
    have hprev : previous (sensorOf n (zs ++ [y])) x k = tuples := by
      rw [previous_of_keys n fun z hz => h.keys x (by simp) z (List.mem_append_left _ hz), ht]
      rfl
    rw [ranks_slide, hprev, hranks, greatest_insert_greatest, millisOf_concat]
    rfl

/-- A series holds exactly the tuples of the `n` latest samples when its time
stamps are theirs. -/
theorem mem_iff_of_ranks {n : Int} {xs : List Sample} (h : OneSensor xs) {k : String}
    {tuples : Series} (ht : seriesOf n xs k = some tuples) (hk : ∀ s ∈ xs, k ∈ s.data) :
    tuples.ranks = greatest n.toNat (millisOf xs) ↔ ∀ e, e ∈ tuples.keys ↔
      ∃ s ∈ latest n.toNat xs, ∃ v, s.data.lookup k = some v ∧ e = tupleFrom s v := by
  have source := (seriesOf_holds xs k ht).source
  constructor
  · intro hr e
    refine ⟨fun he => ?_, fun he => ?_⟩
    · obtain ⟨s, hs, v, hv, rfl⟩ := source e he
      exact ⟨s, (h.mem_latest _).2 ⟨hs, hr ▸ TreeKeys.mem_ranks.2 ⟨_, he, rfl⟩⟩, v, hv, rfl⟩
    · obtain ⟨s, hs, v, hv, rfl⟩ := he
      obtain ⟨hs, hg⟩ := (h.mem_latest _).1 hs
      obtain ⟨e, he, hrank⟩ := TreeKeys.mem_ranks.1 (hr ▸ hg)
      obtain ⟨s', hs', v', hv', rfl⟩ := source e he
      obtain rfl := h.eq_of_millis hs' hs hrank
      rw [hv, Option.some.injEq] at hv'
      exact hv' ▸ he
  · intro he
    ext t
    rw [TreeKeys.mem_ranks]
    refine ⟨fun ht => ?_, fun hg => ?_⟩
    · obtain ⟨e, hmem, rfl⟩ := ht
      obtain ⟨s, hs, v, -, rfl⟩ := (he e).1 hmem
      exact ((h.mem_latest _).1 hs).2
    · obtain ⟨s, hs, rfl⟩ := mem_millisOf.1 (greatest_subset _ _ hg)
      obtain ⟨v, hv⟩ := Dict.exists_lookup (hk s hs)
      exact ⟨tupleFrom s v, (he _).2 ⟨s, (h.mem_latest _).2 ⟨hs, hg⟩, v, hv, rfl⟩, rfl⟩

/-! ## Keeping the `n` latest -/

/-- Every series of the store holds exactly the tuples of the `n` latest samples. -/
def KeepsLatest (n : Int) (xs : List Sample) (c : SampleCollection) : Prop :=
  ∀ s₀ ∈ xs, ∀ k ∈ s₀.data, ∃ tuples,
    c.seriesAt s₀.platformIdentifier s₀.sensorType k = some tuples ∧ ∀ e, e ∈ tuples.keys ↔
      ∃ s ∈ latest n.toNat xs, ∃ v, s.data.lookup k = some v ∧ e = tupleFrom s v

/-- The sample that came last, if it has data items, is one of the `n` latest. -/
def LastIsLatest (n : Int) (xs : List Sample) : Prop :=
  ∀ x ∈ xs.getLast?, ∀ k ∈ x.data,
    (xs.countP (fun s => x.timestamp.millis < s.timestamp.millis) : Int) < n

theorem After.seriesAt_eq {n : Int} {xs : List Sample} {c : SampleCollection} (h : After n xs c)
    (hone : OneSensor xs) {s : Sample} (hs : s ∈ xs) (k : String) :
    c.seriesAt s.platformIdentifier s.sensorType k = seriesOf n xs k := by
  have hall : ofNode s.node xs = xs :=
    List.filter_eq_self.2 fun a ha => decide_eq_true (hone.node a ha s hs)
  rw [seriesAt, h.sensors, show (s.platformIdentifier, s.sensorType) = s.node from rfl, hall, seriesOf]

theorem After.keepsLatest {n : Int} (hn : 1 ≤ n) {xs : List Sample} {c : SampleCollection}
    (h : After n xs c) (hone : OneSensor xs) : KeepsLatest n xs c ↔ LastIsLatest n xs := by
  rcases List.eq_nil_or_concat xs with rfl | ⟨ys, x, rfl⟩
  · simp [KeepsLatest, LastIsLatest]
  rw [List.concat_eq_append] at h hone ⊢
  have hx : x ∈ ys ++ [x] := by simp
  -- one key: its series is right exactly when `x` is among the `n` latest
  have key : ∀ k ∈ x.data, ∃ tuples, seriesOf n (ys ++ [x]) k = some tuples ∧
      ((∀ e, e ∈ tuples.keys ↔ ∃ s ∈ latest n.toNat (ys ++ [x]), ∃ v,
        s.data.lookup k = some v ∧ e = tupleFrom s v) ↔
      ((ys ++ [x]).countP (fun s => x.timestamp.millis < s.timestamp.millis) : Int) < n) := by
    intro k hk
    obtain ⟨tuples, ht, hr⟩ := seriesOf_ranks (n := n) hone hk
    refine ⟨tuples, ht, ?_⟩
    have hfresh : x.timestamp.millis ∉ millisOf ys := by
      intro hm
      have := hone.times
      rw [List.map_append, List.nodup_append] at this
      obtain ⟨s, hs, hst⟩ := mem_millisOf.1 hm
      exact this.2.2 _ (List.mem_map_of_mem hs) _ (by simp) hst
    rw [← mem_iff_of_ranks hone ht fun s hs => hone.keys x hx s hs k hk, hr, hone.countP_later,
      millisOf_concat, above_insert_of_le le_rfl]
    have hsucc : n.toNat = (n - 1).toNat + 1 := by omega
    rw [hsucc, insert_greatest_iff hfresh]
    omega
  constructor
  · intro hkeep x' hx' k hk
    rw [List.getLast?_concat, Option.mem_some] at hx'
    subst hx'
    obtain ⟨tuples, ht, hmem⟩ := hkeep x hx k hk
    rw [h.seriesAt_eq hone hx] at ht
    obtain ⟨tuples', ht', hiff⟩ := key k hk
    rw [ht, Option.some.injEq] at ht'
    exact hiff.1 (ht' ▸ hmem)
  · intro hlast s₀ hs₀ k hk
    have hkx := hone.keys s₀ hs₀ x hx k hk
    obtain ⟨tuples, ht, hiff⟩ := key k hkx
    exact ⟨tuples, by rw [h.seriesAt_eq hone hs₀, ht],
      hiff.2 (hlast x (by rw [List.getLast?_concat]; rfl) k hkx)⟩

theorem latest_perm {xs ys : List Sample} (hp : xs.Perm ys) (n : Nat) (s : Sample) :
    s ∈ latest n xs ↔ s ∈ latest n ys := by
  simp only [latest, List.mem_filter, hp.mem_iff, hp.countP_eq]

/-- Two orders of arrival that both leave the `n` latest leave the same store. -/
theorem sameData_of_perm {n : Int} (hn : 1 ≤ n) {xs ys : List Sample} {c c' : SampleCollection}
    (h : After n xs c) (h' : After n ys c') (hp : xs.Perm ys) (hx : KeepsLatest n xs c)
    (hy : KeepsLatest n ys c') : SameData c c' := by
  have hr := h.represents hn
  have hr' := h'.represents hn
  refine sameData_of_series (fun p => ?_) (fun p t => ?_) (fun p t k => ?_)
  · rw [Bool.eq_iff_iff, hr.nodes, hr'.nodes]
    exact exists_congr fun s => by rw [hp.mem_iff]
  · rw [Bool.eq_iff_iff, hr.sensors, hr'.sensors]
    exact exists_congr fun s => by rw [hp.mem_iff]
  · have hkeys : (c.seriesAt p t k).isSome = true ↔ (c'.seriesAt p t k).isSome = true := by
      rw [hr.keys, hr'.keys]
      exact exists_congr fun s => by rw [hp.mem_iff]
    by_cases hsome : (c.seriesAt p t k).isSome = true
    · obtain ⟨s, hs, hnode, hk⟩ := (hr.keys p t k).1 hsome
      cases hnode
      obtain ⟨a, ha, hmem⟩ := hx s hs k hk
      obtain ⟨b, hb, hmem'⟩ := hy s (hp.mem_iff.1 hs) k hk
      have hab : a = b := by
        refine TreeKeys.eq_of_mem_iff fun e => ?_
        rw [hmem, hmem']
        exact exists_congr fun s => by rw [latest_perm hp]
      rw [ha, hb, hab]
    · rw [Option.not_isSome_iff_eq_none.1 hsome, Option.not_isSome_iff_eq_none.1 (mt hkeys.2 hsome)]

/-- **The last `n`, if the last one is among them.** For samples of one
sensor with the same keys and different time stamps: in any order of arrival
every series holds exactly the `n` latest samples if and only if the sample
that came last is one of them; two orders that both do so give the same
store. -/
theorem keepsLatest_iff {n : Int} (hn : 1 ≤ n) (xs : List Sample) (hone : OneSensor xs) :
    ∃ c, addAll (new n) xs = .ok c ∧ (KeepsLatest n xs c ↔ LastIsLatest n xs) ∧
      ∀ ys c', xs.Perm ys → addAll (new n) ys = .ok c' → KeepsLatest n xs c → KeepsLatest n ys c' →
        SameData c c' := by
  obtain ⟨c, hc, h⟩ := addAll_spec hn xs
  refine ⟨c, hc, h.keepsLatest hn hone, fun ys c' hp hc' hx hy => ?_⟩
  obtain ⟨c'', hc'', h'⟩ := addAll_spec hn ys
  rw [hc', Except.ok.injEq] at hc''
  subst hc''
  exact sameData_of_perm hn h h' hp hx hy

/-- A reading with one value at a time. -/
def readingAt (millis : Int) : Sample :=
  (Sample.transferSample ⟨0, BitVec.ofInt 64 millis⟩ ⟨millis, "UTC"⟩ "node" "temperature").addItem
    "temperature" (.double (.finite millis))

theorem readings_oneSensor (times : List Int) (h : times.Nodup) : OneSensor (times.map readingAt) := by
  refine ⟨?_, ?_, ?_⟩
  · simp only [List.mem_map]
    rintro _ ⟨a, -, rfl⟩ _ ⟨b, -, rfl⟩
    rfl
  · simp only [List.mem_map]
    rintro _ ⟨a, -, rfl⟩ _ ⟨b, -, rfl⟩ k hk
    exact (AList.mem_insert ∅).2 ((AList.mem_insert ∅).1 hk)
  · rw [List.map_map]
    exact (List.map_id' times).symm ▸ h

theorem readings_keep_latest : ∃ c, addAll (new 2) ([1, 3, 2].map readingAt) = .ok c ∧
    (KeepsLatest 2 ([1, 3, 2].map readingAt) c ↔ LastIsLatest 2 ([1, 3, 2].map readingAt)) := by
  obtain ⟨c, hc, h, -⟩ := keepsLatest_iff (n := 2) (by decide) _ (readings_oneSensor [1, 3, 2] (by decide))
  exact ⟨c, hc, h⟩

/-- With a limit of two, the arrivals 2, 3, 1 leave 3 and 1. -/
theorem late_reading_evicts : ∃ c, addAll (new 2) ([2, 3, 1].map readingAt) = .ok c ∧
    OneSensor ([2, 3, 1].map readingAt) ∧ ¬ KeepsLatest 2 ([2, 3, 1].map readingAt) c := by
  obtain ⟨c, hc, h⟩ := addAll_spec (n := 2) (by decide) ([2, 3, 1].map readingAt)
  have hone : OneSensor ([2, 3, 1].map readingAt) := readings_oneSensor _ (by decide)
  refine ⟨c, hc, hone, fun hkeep => ?_⟩
  have := (h.keepsLatest (by decide) hone).1 hkeep (readingAt 1) rfl "temperature" (by decide)
  exact absurd this (by decide)

end SensorSamplor.SampleCollection
