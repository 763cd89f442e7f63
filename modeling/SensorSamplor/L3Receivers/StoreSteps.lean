import SensorSamplor.L3Receivers.StoreRuns

/-!
# One more sample

What `addSample` does to a collection that any sequence of samples has led
to. The sample slides its values into the series it finds (`prior`): the
stored ones when all of its keys are known to its sensor, else new ones
(`own_addSample`).

* `history_spared_iff`: when the entries that were there stay.
* `sample_stored_iff`: when the sample itself is in the store afterwards.
* `redelivery_harmless_iff`: when adding it once more changes nothing.
-/
namespace SensorSamplor.SampleCollection

open SensorSamplor.Core

/-- The series of key `k` that a sample finds: empty when one of its keys is
new to its sensor. -/
def prior (c : SampleCollection) (s : Sample) (k : String) : Series :=
  previous (c.sensorAt s.platformIdentifier s.sensorType) s k

/-- The series of key `k` of the sample's own sensor. -/
def own (c : SampleCollection) (s : Sample) (k : String) : Option Series :=
  c.seriesAt s.platformIdentifier s.sensorType k

theorem own_addSample {c c' : SampleCollection} {s : Sample} (h : c.addSample s = .ok c') (k : String) :
    c'.own s k =
      match s.data.lookup k with
      | some v => some (slide c.maximumEntriesPerSensor (c.prior s k) (tupleFrom s v))
      | none => c.own s k := by
  rw [own, seriesAt, (addSample_ok h).own, Option.bind_some, lookup_recorded]
  rfl

theorem prior_of_known {c : SampleCollection} {s : Sample} (hall : ∀ k ∈ s.data, (c.own s k).isSome = true)
    {k : String} {tuples : Series} (h : c.own s k = some tuples) :
    c.prior s k = tuples := by
  have hprior : c.prior s k = (c.own s k).getD .empty := previous_of_forall hall k
  rw [hprior, h]
  rfl

theorem prior_of_new {c : SampleCollection} {s : Sample} {k' : String} (hk' : k' ∈ s.data)
    (h : c.own s k' = none) (k : String) : c.prior s k = .empty := previous_of_none hk' h k

/-- What a sample finds is what is stored, or nothing. -/
theorem mem_prior {c : SampleCollection} {s : Sample} {k : String} {e : SampleTuple}
    (h : e ∈ (c.prior s k).keys) : ∃ tuples, c.own s k = some tuples ∧ e ∈ tuples.keys := mem_previous h

/-- After any sequence of samples. -/
theorem after_addSample {n : Int} (hn : 1 ≤ n) (xs : List Sample) (s : Sample) :
    ∃ c c', addAll (new n) xs = .ok c ∧ After n xs c ∧ c.addSample s = .ok c' := by
  obtain ⟨c, hc, h⟩ := addAll_spec hn xs
  have hterminates : Terminates c.maximumEntriesPerSensor s := .inl (h.limit ▸ hn)
  obtain ⟨c', hc', -⟩ := addSample_spec hterminates
  exact ⟨c, c', hc, h, hc'⟩

theorem After.own_eq {n : Int} {xs : List Sample} {c : SampleCollection} (h : After n xs c) (s : Sample)
    (k : String) : c.own s k = seriesOf n (ofNode s.node xs) k := by
  rw [own, seriesAt, h.sensors, seriesOf]
  rfl

theorem After.own_holds {n : Int} {xs : List Sample} {c : SampleCollection} (h : After n xs c) {s : Sample}
    {k : String} {tuples : Series} (ht : c.own s k = some tuples) :
    Holds n (ofNode s.node xs) k tuples := by
  rw [h.own_eq] at ht
  exact seriesOf_holds _ k ht

/-! ## The history of a sensor -/

/-- What is to stay of a series that gets a new entry: all of it, but for the
oldest of `n` entries. -/
def toStay (n : Int) (tuples : Series) : Series :=
  if (tuples.size : Int) < n then tuples else tuples.pollFirst

theorem keep_eq_toStay {n : Int} {tuples : Series} (h : (tuples.size : Int) ≤ n) (hn : 1 ≤ n) :
    tuples.keep (n - 1).toNat = toStay n tuples := by
  unfold toStay
  split
  · exact TreeKeys.keep_of_size_le (by omega)
  · rw [← TreeKeys.keep_pollFirst (by omega)]
    exact TreeKeys.keep_of_size_le (by rw [TreeKeys.size_pollFirst]; omega)

/-- The sample costs its sensor at most the oldest entry of its full series,
and nothing of the series it has no value for. -/
structure SparesHistory (c : SampleCollection) (s : Sample) (c' : SampleCollection) : Prop where
  named : ∀ k ∈ s.data, ∀ tuples, c.own s k = some tuples → ∃ tuples', c'.own s k = some tuples' ∧
    ∀ e ∈ (toStay c.maximumEntriesPerSensor tuples).keys, e ∈ tuples'.keys
  others : ∀ k, k ∉ s.data → c'.own s k = c.own s k

/-- No key of the sample is new to its sensor, or the series of those that
are not have nothing to lose but the sample's own tuple. -/
def HistorySafe (c : SampleCollection) (s : Sample) : Prop :=
  (∀ k ∈ s.data, (c.own s k).isSome = true) ∨
  ∀ k v tuples, s.data.lookup k = some v → c.own s k = some tuples →
    ∀ e ∈ (toStay c.maximumEntriesPerSensor tuples).keys, e = tupleFrom s v

theorem mem_slide_of_mem {n : Int} (hn : 1 ≤ n) {tuples : Series} (h : (tuples.size : Int) ≤ n)
    (t : SampleTuple) {e : SampleTuple} (he : e ∈ (toStay n tuples).keys) : e ∈ (slide n tuples t).keys := by
  rw [← keep_eq_toStay h hn] at he
  exact TreeKeys.mem_put_of_mem t he

theorem mem_slide_empty {n : Int} {t e : SampleTuple} : e ∈ (slide n .empty t).keys ↔ e = t := by
  have hslide : (slide n .empty t).keys = [t] := by
    unfold slide
    rw [TreeKeys.keep_of_size_le (show (TreeKeys.empty : Series).size ≤ _ by exact Nat.zero_le _)]
    rfl
  rw [hslide, List.mem_singleton]

theorem After.sparesHistory {n : Int} (hn : 1 ≤ n) {xs : List Sample} {c c' : SampleCollection}
    {s : Sample} (h : After n xs c) (hc' : c.addSample s = .ok c') : SparesHistory c s c' ↔ HistorySafe c s := by
  have hown := own_addSample hc'
  have hfull : ∀ {k tuples}, c.own s k = some tuples → (tuples.size : Int) ≤ n :=
    fun ht => (h.own_holds ht).limit hn
  have hothers : ∀ k, k ∉ s.data → c'.own s k = c.own s k := by
    intro k hk
    rw [hown, AList.lookup_eq_none.2 hk]
  unfold HistorySafe
  rw [h.limit] at hown ⊢
  by_cases hall : ∀ k ∈ s.data, (c.own s k).isSome = true
  · refine ⟨fun _ => .inl hall, fun _ => ⟨fun k hk tuples ht => ?_, hothers⟩⟩
    obtain ⟨v, hv⟩ := Dict.exists_lookup hk
    refine ⟨_, by rw [hown, hv], fun e he => ?_⟩
    rw [h.limit] at he
    rw [prior_of_known hall ht]
    exact mem_slide_of_mem hn (hfull ht) _ he
  · -- the series of all keys of the sample are created anew
    obtain ⟨k', hk', hnew⟩ : ∃ k ∈ s.data, c.own s k = none := by simpa using hall
    have hreset : ∀ {k v}, s.data.lookup k = some v →
        c'.own s k = some (slide n .empty (tupleFrom s v)) := by
      intro k v hv
      rw [hown, hv, prior_of_new hk' hnew]
    refine ⟨fun hs => .inr fun k v tuples hv ht e he => ?_, fun hc => ⟨fun k hk tuples ht => ?_, hothers⟩⟩
    · obtain ⟨tuples', ht', hstay⟩ :=
        hs.named k (Dict.mem_of_lookup hv) tuples ht
      rw [hreset hv, Option.some.injEq] at ht'
      subst ht'
      rw [h.limit] at hstay
      exact mem_slide_empty.1 (hstay e he)
    · obtain ⟨v, hv⟩ := Dict.exists_lookup hk
      refine ⟨_, hreset hv, fun e he => ?_⟩
      rw [h.limit] at he
      rw [mem_slide_empty]
      exact (hc.resolve_left hall) k v tuples hv ht e he

/-- **A new key and the history.** In every collection that a sequence of
samples leads to, adding a sample spares the history of its sensor if and
only if none of its keys is new, or its known keys have nothing to lose. -/
theorem history_spared_iff {n : Int} (hn : 1 ≤ n) (xs : List Sample) (s : Sample) :
    ∃ c c', addAll (new n) xs = .ok c ∧ c.addSample s = .ok c' ∧
      (SparesHistory c s c' ↔ HistorySafe c s) := by
  obtain ⟨c, c', hc, h, hc'⟩ := after_addSample hn xs s
  exact ⟨c, c', hc, hc', h.sparesHistory hn hc'⟩

/-- A sample of one sensor, with the same value for each of its keys. -/
def ofKeys (id : BitVec 64) (millis : Int) (keys : List String) : Sample :=
  keys.foldl (fun s k => s.addItem k (.long millis))
    (Sample.transferSample ⟨0, id⟩ ⟨millis, "UTC"⟩ "node" "web")

theorem secondReading_history : ∃ c c', addAll (new 2) [ofKeys 1 1 ["a"]] = .ok c ∧
    c.addSample (ofKeys 2 2 ["a"]) = .ok c' ∧
    (SparesHistory c (ofKeys 2 2 ["a"]) c' ↔ HistorySafe c (ofKeys 2 2 ["a"])) :=
  history_spared_iff (by decide) [ofKeys 1 1 ["a"]] (ofKeys 2 2 ["a"])

/-- The second sample of a sensor brings a second key: the entry of the first
is gone, in a store that keeps two. -/
theorem secondKey_forgets : ∃ c c', addAll (new 2) [ofKeys 1 1 ["a"]] = .ok c ∧
    c.addSample (ofKeys 2 2 ["a", "b"]) = .ok c' ∧ ¬ SparesHistory c (ofKeys 2 2 ["a", "b"]) c' := by
  obtain ⟨c, c', hc, h, hc'⟩ :=
    after_addSample (n := 2) (by decide) [ofKeys 1 1 ["a"]] (ofKeys 2 2 ["a", "b"])
  refine ⟨c, c', hc, hc', fun hs => ?_⟩
  rcases (h.sparesHistory (by decide) hc').1 hs with hall | hlose
  · have hb := hall "b" (by decide)
    rw [h.own_eq] at hb
    exact absurd hb (by decide)
  · have ha := hlose "a" (.long 2) _ (by decide) (by rw [h.own_eq]; rfl) (tupleFrom (ofKeys 1 1 ["a"]) (.long 1))
      (by rw [h.limit]; decide)
    exact absurd ha (by decide)

/-! ## The sample itself -/

/-- The `n - 1` latest entries of the series of key `k` that a sample finds. -/
def latestBefore (c : SampleCollection) (s : Sample) (k : String) : Series :=
  (c.prior s k).keep (c.maximumEntriesPerSensor - 1).toNat

theorem own_addSample_of_mem {c c' : SampleCollection} {s : Sample} (h : c.addSample s = .ok c') {k : String}
    {v : Value} (hv : s.data.lookup k = some v) :
    c'.own s k = some ((c.latestBefore s k).put (tupleFrom s v)) := by
  rw [own_addSample h, hv]
  rfl

/-- Every data item of the sample is an entry of its series. -/
def Stored (c : SampleCollection) (s : Sample) : Prop :=
  ∀ k v, s.data.lookup k = some v → ∃ tuples, c.own s k = some tuples ∧
    ∃ e ∈ tuples.keys, e.id = s.id.toString ∧ e.value = v

/-- Another sample's entry stands at the sample's time stamp, among the
`n - 1` latest. -/
def Taken (c : SampleCollection) (s : Sample) (k : String) : Prop :=
  ∃ e ∈ (c.latestBefore s k).keys, e.timestamp.millis = s.timestamp.millis ∧ e.id ≠ s.id.toString

/-- An entry with the id of a sample is this sample's. -/
theorem After.eq_tupleFrom {n : Int} {xs : List Sample} {c : SampleCollection} (h : After n xs c) {s : Sample}
    (hid : ∀ x ∈ xs, x.id = s.id → x = s) {k : String} {v : Value} (hv : s.data.lookup k = some v)
    {e : SampleTuple} (he : e ∈ (c.latestBefore s k).keys) (heid : e.id = s.id.toString) :
    e = tupleFrom s v := by
  obtain ⟨tuples, ht, he⟩ := mem_prior (TreeKeys.mem_keep he)
  obtain ⟨x, hx, w, hw, rfl⟩ := (h.own_holds ht).source e he
  have hxs : x = s := hid x (mem_ofNode.1 hx).1 (UUID.toString_injective heid)
  subst hxs
  rw [hv, Option.some.injEq] at hw
  rw [hw]

theorem After.stored_iff {n : Int} {xs : List Sample} {c c' : SampleCollection} {s : Sample} (h : After n xs c)
    (hid : ∀ x ∈ xs, x.id = s.id → x = s) (hc' : c.addSample s = .ok c') :
    Stored c' s ↔ ∀ k ∈ s.data, ¬ Taken c s k := by
  constructor
  · intro hs k hk htaken
    obtain ⟨e, he, hmillis, hne⟩ := htaken
    obtain ⟨v, hv⟩ := Dict.exists_lookup hk
    obtain ⟨tuples, ht, e', he', heid, -⟩ := hs k v hv
    -- the rank is taken: nothing is put, and `s` has no entry of an earlier time
    rw [own_addSample_of_mem hc' hv, Option.some.injEq,
      TreeKeys.put_of_mem_ranks (a := tupleFrom s v) (TreeKeys.mem_ranks.2 ⟨e, he, hmillis⟩)] at ht
    subst ht
    have hown := h.eq_tupleFrom hid hv he' heid
    have hee' : e = e' := TreeKeys.eq_of_rank he he' (by rw [hown]; exact hmillis)
    exact hne (hee' ▸ heid)
  · intro hfree k v hv
    have hk : k ∈ s.data := Dict.mem_of_lookup hv
    refine ⟨_, own_addSample_of_mem hc' hv, ?_⟩
    by_cases hrank : (tupleFrom s v).rank ∈ (c.latestBefore s k).ranks
    · obtain ⟨e, he, hmillis⟩ := TreeKeys.mem_ranks.1 hrank
      have heid : e.id = s.id.toString := by
        by_contra hne
        exact hfree k hk ⟨e, he, hmillis, hne⟩
      refine ⟨e, TreeKeys.mem_put_of_mem _ he, heid, ?_⟩
      rw [h.eq_tupleFrom hid hv he heid]
      rfl
    · exact ⟨tupleFrom s v, TreeKeys.mem_put_self hrank, rfl, rfl⟩

/-- **A sample just added.** In every collection that a sequence of samples
leads to, a sample is stored by adding it if and only if no entry of another
sample has its time stamp, among the latest `n - 1` of a series it goes to. -/
theorem sample_stored_iff {n : Int} (hn : 1 ≤ n) (xs : List Sample) (s : Sample)
    (hid : ∀ x ∈ xs, x.id = s.id → x = s) :
    ∃ c c', addAll (new n) xs = .ok c ∧ c.addSample s = .ok c' ∧
      (Stored c' s ↔ ∀ k ∈ s.data, ¬ Taken c s k) := by
  obtain ⟨c, c', hc, h, hc'⟩ := after_addSample hn xs s
  exact ⟨c, c', hc, hc', h.stored_iff hid hc'⟩

theorem laterReading_stored : ∃ c c', addAll (new 2) [ofKeys 1 1 ["a"]] = .ok c ∧
    c.addSample (ofKeys 2 2 ["a"]) = .ok c' ∧
    (Stored c' (ofKeys 2 2 ["a"]) ↔ ∀ k ∈ (ofKeys 2 2 ["a"]).data, ¬ Taken c (ofKeys 2 2 ["a"]) k) :=
  sample_stored_iff (by decide) [ofKeys 1 1 ["a"]] (ofKeys 2 2 ["a"]) (by decide)

/-- Two samples of the same millisecond: the second one is not stored. -/
theorem sameMillis_discarded : ∃ c c', addAll (new 2) [ofKeys 1 1 ["a"]] = .ok c ∧
    c.addSample (ofKeys 2 1 ["a"]) = .ok c' ∧ (∀ x ∈ [ofKeys 1 1 ["a"]], x.id ≠ (ofKeys 2 1 ["a"]).id) ∧
    ¬ Stored c' (ofKeys 2 1 ["a"]) := by
  obtain ⟨c, c', hc, h, hc'⟩ :=
    after_addSample (n := 2) (by decide) [ofKeys 1 1 ["a"]] (ofKeys 2 1 ["a"])
  refine ⟨c, c', hc, hc', by decide, fun hs => ?_⟩
  have hprior : c.prior (ofKeys 2 1 ["a"]) "a" = TreeKeys.empty.put (tupleFrom (ofKeys 1 1 ["a"]) (.long 1)) := by
    unfold prior
    rw [h.sensors]
    rfl
  refine (h.stored_iff (by decide) hc').1 hs "a" (by decide) ⟨tupleFrom (ofKeys 1 1 ["a"]) (.long 1), ?_, rfl, ?_⟩
  · unfold latestBefore
    rw [hprior, h.limit]
    decide
  · decide

/-! ## The same sample once more -/

/-- The sample has not filled up the series by an entry that is not the
oldest one: it finds fewer than `n - 1` entries, or an entry of its time
stamp among the `n - 1` latest, or only later ones. -/
def Redeliverable (c : SampleCollection) (s : Sample) (k : String) : Prop :=
  ((c.latestBefore s k).size : Int) < c.maximumEntriesPerSensor - 1 ∨
  (∃ e ∈ (c.latestBefore s k).keys, e.timestamp.millis = s.timestamp.millis) ∨
  ∀ e ∈ (c.latestBefore s k).keys, s.timestamp.millis < e.timestamp.millis

theorem SameData.own_eq {c c' : SampleCollection} (h : SameData c c') (s : Sample) (k : String) :
    c.own s k = c'.own s k := by
  have hsensor := Dict.Rel.bind_lookup (h s.platformIdentifier) s.sensorType
  exact Dict.eq_of_rel (Dict.Rel.bind_lookup hsensor k)

theorem own_redelivered {c c₁ c₂ : SampleCollection} {s : Sample} (h₁ : c.addSample s = .ok c₁)
    (h₂ : c₁.addSample s = .ok c₂) {k : String} {v : Value} (hv : s.data.lookup k = some v) :
    c₂.own s k = some ((((c.latestBefore s k).put (tupleFrom s v)).keep
      (c.maximumEntriesPerSensor - 1).toNat).put (tupleFrom s v)) := by
  have hall : ∀ k ∈ s.data, (c₁.own s k).isSome = true := by
    intro k hk
    obtain ⟨v, hv⟩ := Dict.exists_lookup hk
    rw [own_addSample_of_mem h₁ hv]
    rfl
  rw [own_addSample_of_mem h₂ hv, latestBefore, prior_of_known hall (own_addSample_of_mem h₁ hv),
    (addSample_ok h₁).limit]

/-- Adding a sample twice leaves the same data when it leaves the same series. -/
theorem sameData_redelivered {c c₁ c₂ : SampleCollection} {s : Sample} (h₁ : c.addSample s = .ok c₁)
    (h₂ : c₁.addSample s = .ok c₂) (hown : ∀ k, c₁.own s k = c₂.own s k) : SameData c₁ c₂ := by
  have hsets := addSample_ok h₂
  have hown₁ := (addSample_ok h₁).own
  refine sameData_of_series (fun p => ?_) (fun p t => ?_) (fun p t k => ?_)
  · rw [hsets.nodes, (addSample_ok h₁).nodes]
    by_cases hp : p = s.platformIdentifier
    · simp [hp]
    · simp [hp]
  · rw [hsets.sensors]
    split
    · rename_i hnode
      cases hnode
      rw [hown₁]
      rfl
    · rfl
  · by_cases hnode : (p, t) = s.node
    · cases hnode
      exact hown k
    · rw [seriesAt, seriesAt, hsets.sensors, if_neg hnode]

theorem After.redelivered {n : Int} (hn : 1 ≤ n) {xs : List Sample} {c c₁ c₂ : SampleCollection}
    {s : Sample} (h : After n xs c) (h₁ : c.addSample s = .ok c₁) (h₂ : c₁.addSample s = .ok c₂) :
    SameData c₁ c₂ ↔ ∀ k ∈ s.data, Redeliverable c s k := by
  -- one key: the second time leaves its series as it is
  have key : ∀ k v, s.data.lookup k = some v → (c₂.own s k = c₁.own s k ↔ Redeliverable c s k) := by
    intro k v hv
    have hsize : (c.latestBefore s k).size ≤ (c.maximumEntriesPerSensor - 1).toNat :=
      TreeKeys.size_keep _ _
    rw [own_redelivered h₁ h₂ hv, own_addSample_of_mem h₁ hv, Option.some.injEq,
      TreeKeys.put_keep_put_iff hsize]
    have hfill : (c.latestBefore s k).size < (c.maximumEntriesPerSensor - 1).toNat ↔
        ((c.latestBefore s k).size : Int) < c.maximumEntriesPerSensor - 1 := by
      rw [h.limit]
      omega
    have hleast : (∀ b ∈ (c.latestBefore s k).ranks, (tupleFrom s v).rank < b) ↔
        ∀ e ∈ (c.latestBefore s k).keys, s.timestamp.millis < e.timestamp.millis := by
      refine ⟨fun hl e he => hl _ (TreeKeys.mem_ranks.2 ⟨e, he, rfl⟩), fun hl b hb => ?_⟩
      obtain ⟨e, he, rfl⟩ := TreeKeys.mem_ranks.1 hb
      exact hl e he
    unfold Redeliverable
    rw [hfill, hleast, TreeKeys.mem_ranks]
    rfl
  constructor
  · intro hsame k hk
    obtain ⟨v, hv⟩ := Dict.exists_lookup hk
    exact (key k v hv).1 (hsame.own_eq s k).symm
  · intro hall
    refine sameData_redelivered h₁ h₂ fun k => ?_
    cases hv : s.data.lookup k with
    | none => rw [own_addSample h₂, hv]
    | some v => exact ((key k v hv).2 (hall k (Dict.mem_of_lookup hv))).symm

/-- **Redelivery.** In every collection that a sequence of samples leads to,
adding a sample twice is the same as adding it once if and only if the first
time has not filled up a series by an entry that is not its oldest. -/
theorem redelivery_harmless_iff {n : Int} (hn : 1 ≤ n) (xs : List Sample) (s : Sample) :
    ∃ c c₁ c₂, addAll (new n) xs = .ok c ∧ c.addSample s = .ok c₁ ∧ c₁.addSample s = .ok c₂ ∧
      (SameData c₁ c₂ ↔ ∀ k ∈ s.data, Redeliverable c s k) := by
  obtain ⟨c, c₁, hc, h, h₁⟩ := after_addSample hn xs s
  have hlimit : c₁.maximumEntriesPerSensor = n := (addSample_ok h₁).limit.trans h.limit
  have hterminates : Terminates c₁.maximumEntriesPerSensor s := .inl (hlimit ▸ hn)
  obtain ⟨c₂, h₂, -⟩ := addSample_spec hterminates
  exact ⟨c, c₁, c₂, hc, h₁, h₂, h.redelivered hn h₁ h₂⟩

theorem firstReading_redelivered : ∃ c c₁ c₂, addAll (new 2) [] = .ok c ∧
    c.addSample (ofKeys 1 1 ["a"]) = .ok c₁ ∧ c₁.addSample (ofKeys 1 1 ["a"]) = .ok c₂ ∧
    (SameData c₁ c₂ ↔ ∀ k ∈ (ofKeys 1 1 ["a"]).data, Redeliverable c (ofKeys 1 1 ["a"]) k) :=
  redelivery_harmless_iff (by decide) [] (ofKeys 1 1 ["a"])

/-- In a store that keeps two, the second reading of a sensor, delivered
again, costs the first one. -/
theorem redelivery_evicts : ∃ c c₁ c₂, addAll (new 2) [ofKeys 1 1 ["a"]] = .ok c ∧
    c.addSample (ofKeys 2 2 ["a"]) = .ok c₁ ∧ c₁.addSample (ofKeys 2 2 ["a"]) = .ok c₂ ∧
    ¬ SameData c₁ c₂ := by
  have hn : (1 : Int) ≤ 2 := by decide
  obtain ⟨c, hc, h⟩ := addAll_spec hn [ofKeys 1 1 ["a"]]
  obtain ⟨c₁, hc₁, h₁⟩ := addAll_spec hn ([ofKeys 1 1 ["a"]] ++ [ofKeys 2 2 ["a"]])
  obtain ⟨c₂, hc₂, h₂⟩ :=
    addAll_spec hn ([ofKeys 1 1 ["a"]] ++ [ofKeys 2 2 ["a"]] ++ [ofKeys 2 2 ["a"]])
  rw [addAll_concat, hc₁] at hc₂
  rw [addAll_concat, hc] at hc₁
  refine ⟨c, c₁, c₂, hc, hc₁, hc₂, fun hsame => ?_⟩
  have hown := hsame.own_eq (ofKeys 1 1 ["a"]) "a"
  rw [h₁.own_eq, h₂.own_eq] at hown
  have hkeys := congrArg (Option.map TreeKeys.keys) hown
  exact absurd hkeys (by decide)

end SensorSamplor.SampleCollection
