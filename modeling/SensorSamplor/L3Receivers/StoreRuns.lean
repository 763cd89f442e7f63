import Mathlib.Data.List.Induction
import SensorSamplor.Core.Outcome
import SensorSamplor.L3Receivers.SampleCollection

/-!
# Runs of the sample store

What a new `SampleCollection` holds after any sequence of `addSample` calls,
for a limit of at least one. Each platform and sensor type is on its own:
its series are computed from its own samples (`sensorOf`, `addAll_spec`).
From this follow the shape of the store and of its export after every run
(`stored`), and that the order in which samples of different sensors arrive
does not show (`sensors_independent`).
-/
namespace SensorSamplor.SampleCollection

open SensorSamplor.Core

/-- A sequence of `addSample` calls. -/
def addAll (c : SampleCollection) (xs : List Sample) : Except Fault SampleCollection :=
  xs.foldlM addSample c

/-- The samples of one platform and sensor type. -/
def ofNode (node : String × String) (xs : List Sample) : List Sample :=
  xs.filter fun s => decide (s.node = node)

theorem ofNode_concat (node : String × String) (xs : List Sample) (s : Sample) :
    ofNode node (xs ++ [s]) = if s.node = node then ofNode node xs ++ [s] else ofNode node xs := by
  unfold ofNode
  by_cases h : s.node = node <;> simp [List.filter_append, h]

/-- The series of a sensor that got the samples `ys`. -/
def sensorOf (n : Int) (ys : List Sample) : Option SensorMap :=
  ys.foldl (fun m s => some (recorded n m s)) none

theorem sensorOf_concat (n : Int) (ys : List Sample) (s : Sample) :
    sensorOf n (ys ++ [s]) = some (recorded n (sensorOf n ys) s) := by
  unfold sensorOf; rw [List.foldl_append]; rfl

/-- The state of a store after the samples `xs`. -/
structure After (n : Int) (xs : List Sample) (c : SampleCollection) : Prop where
  limit : c.maximumEntriesPerSensor = n
  sensors : ∀ p t, c.sensorAt p t = sensorOf n (ofNode (p, t) xs)
  nodes : ∀ p, c.hasNode p = true ↔ ∃ s ∈ xs, s.platformIdentifier = p

theorem after_new (n : Int) : After n [] (new n) :=
  ⟨rfl, fun _ _ => rfl, fun p => by simp [new, hasNode, getNode]⟩

theorem after_step {n : Int} {xs : List Sample} {c c' : SampleCollection} {s : Sample} (h : After n xs c)
    (hc' : c.addSample s = .ok c') : After n (xs ++ [s]) c' := by
  have hs := addSample_ok hc'
  refine ⟨hs.limit.trans h.limit, fun p t => ?_, fun p => ?_⟩
  · rw [hs.sensors, h.limit, h.sensors, h.sensors, ofNode_concat]
    by_cases hnode : s.node = (p, t)
    · rw [if_pos hnode.symm, if_pos hnode, sensorOf_concat, show (p, t) = s.node from hnode.symm]
      rfl
    · rw [if_neg (Ne.symm hnode), if_neg hnode]
  · rw [hs.nodes, Bool.or_eq_true, h.nodes, decide_eq_true_eq]
    refine ⟨fun hp => ?_, fun hp => ?_⟩
    · obtain rfl | ⟨s', hs', rfl⟩ := hp
      · exact ⟨s, by simp, rfl⟩
      · exact ⟨s', by simp [hs'], rfl⟩
    · obtain ⟨s', hs', rfl⟩ := hp
      rcases List.mem_append.1 hs' with hs' | hs'
      · exact .inr ⟨s', hs', rfl⟩
      · exact .inl (by rw [List.mem_singleton.1 hs'])

theorem addAll_concat (c : SampleCollection) (xs : List Sample) (s : Sample) :
    addAll c (xs ++ [s]) = addAll c xs >>= fun c => c.addSample s := by
  unfold addAll
  rw [List.foldlM_append]
  congr 1
  funext c
  show c.addSample s >>= pure = c.addSample s
  cases c.addSample s <;> rfl

theorem after_of_addAll {n : Int} {xs : List Sample} {c : SampleCollection}
    (h : addAll (new n) xs = .ok c) : After n xs c := by
  induction xs using List.reverseRecOn generalizing c with
  | nil => cases h; exact after_new n
  | append_singleton xs s ih =>
    rw [addAll_concat] at h
    cases hc : addAll (new n) xs with
    | error f => rw [hc] at h; cases h
    | ok c₀ => rw [hc] at h; exact after_step (ih hc) h

theorem addAll_spec {n : Int} (hn : 1 ≤ n) (xs : List Sample) :
    ∃ c, addAll (new n) xs = .ok c ∧ After n xs c := by
  induction xs using List.reverseRecOn with
  | nil => exact ⟨new n, rfl, after_new n⟩
  | append_singleton xs s ih =>
    obtain ⟨c, hc, h⟩ := ih
    obtain ⟨c', hc', -⟩ := addSample_spec (c := c) (.inl (h.limit ▸ hn))
    exact ⟨c', by rw [addAll_concat, hc]; exact hc', after_step h hc'⟩

/-- A sequence of calls returns when every single call does. -/
theorem addAll_ok_iff (n : Int) (xs : List Sample) :
    (∃ c, addAll (new n) xs = .ok c) ↔ ∀ s ∈ xs, Terminates n s := by
  induction xs using List.reverseRecOn with
  | nil => exact iff_of_true ⟨new n, rfl⟩ (by simp)
  | append_singleton xs s ih =>
    rw [List.forall_mem_append, List.forall_mem_singleton, ← ih]
    simp only [addAll_concat, bind_eq_ok]
    refine ⟨fun h => ?_, fun h => ?_⟩
    · obtain ⟨c', c, hc, hc'⟩ := h
      refine ⟨⟨c, hc⟩, ?_⟩
      by_contra hdiverges
      rw [addSample_diverges ((after_of_addAll hc).limit ▸ hdiverges)] at hc'
      cases hc'
    · obtain ⟨⟨c, hc⟩, hn⟩ := h
      obtain ⟨c', hc', -⟩ := addSample_spec (c := c) ((after_of_addAll hc).limit ▸ hn)
      exact ⟨c', c, hc, hc'⟩

/-! ## The series of one sensor -/

/-- Whether every key of the sample has a series already. -/
def known (m : Option SensorMap) (s : Sample) : Bool :=
  match m with
  | none => false
  | some m => s.data.keys.all fun v => decide (v ∈ m)

/-- The series of key `k` that a sample's value is added to. -/
def previous (m : Option SensorMap) (s : Sample) (k : String) : Series :=
  if known m s then (m.bind (·.lookup k)).getD .empty else .empty

theorem previous_of_forall {m : Option SensorMap} {s : Sample}
    (h : ∀ k ∈ s.data, (m.bind (·.lookup k)).isSome = true) (k : String) :
    previous m s k = (m.bind (·.lookup k)).getD .empty := by
  unfold previous
  cases m with
  | none => rfl
  | some m =>
    have hknown : known (some m) s = true :=
      List.all_eq_true.2 fun k hk => decide_eq_true (AList.lookup_isSome.1 (h k hk))
    rw [if_pos hknown]

theorem previous_of_none {m : Option SensorMap} {s : Sample} {k' : String} (hk' : k' ∈ s.data)
    (h : m.bind (·.lookup k') = none) (k : String) : previous m s k = .empty := by
  unfold previous
  cases m with
  | none => rfl
  | some m =>
    have hknown : known (some m) s = false :=
      List.all_eq_false.2 ⟨k', hk', by simpa using AList.lookup_eq_none.1 h⟩
    rw [hknown]
    rfl

theorem lookup_prepared (m : Option SensorMap) (s : Sample) (k : String) :
    (prepared m s).lookup k = if k ∈ s.data then some (previous m s k) else m.bind (·.lookup k) := by
  have hkeys : k ∈ s.data.keys ↔ k ∈ s.data := Iff.rfl
  cases m with
  | none =>
    simp only [prepared, mem_createValues, hkeys, previous, known, Option.bind_none]
    split <;> simp
  | some m =>
    simp only [prepared, previous, known, Option.bind_some]
    by_cases hall : (s.data.keys.all fun v => decide (v ∈ m)) = true
    · simp only [hall, if_true]
      split
      · rename_i hk
        have hmem := of_decide_eq_true (List.all_eq_true.1 hall k hk)
        obtain ⟨tuples, ht⟩ := Dict.exists_lookup hmem
        rw [ht]; rfl
      · rfl
    · rw [Bool.not_eq_true] at hall
      simp only [hall, Bool.false_eq_true, if_false, mem_createValues, hkeys]

/-- A sample slides its values into the series of its keys and leaves the
series of other keys alone. -/
theorem lookup_recorded (n : Int) (m : Option SensorMap) (s : Sample) (k : String) :
    (recorded n m s).lookup k =
      match s.data.lookup k with
      | some v => some (slide n (previous m s k) (tupleFrom s v))
      | none => m.bind (·.lookup k) := by
  rw [recorded, Dict.lookup_updateWith, lookup_prepared]
  cases hv : s.data.lookup k with
  | none => rw [if_neg fun hk => by simp [AList.lookup_eq_none.1 hv] at hk]
  | some v => rw [if_pos (Dict.mem_of_lookup hv)]; rfl

/-- The series of key `k` of a sensor that got the samples `ys`. -/
def seriesOf (n : Int) (ys : List Sample) (k : String) : Option Series :=
  (sensorOf n ys).bind (·.lookup k)

theorem seriesOf_concat (n : Int) (ys : List Sample) (s : Sample) (k : String) :
    seriesOf n (ys ++ [s]) k =
      match s.data.lookup k with
      | some v => some (slide n (previous (sensorOf n ys) s k) (tupleFrom s v))
      | none => seriesOf n ys k := by
  rw [seriesOf, sensorOf_concat, Option.bind_some, lookup_recorded]
  rfl

theorem mem_previous {m : Option SensorMap} {s : Sample} {k : String} {e : SampleTuple}
    (h : e ∈ (previous m s k).keys) : ∃ tuples, m.bind (·.lookup k) = some tuples ∧ e ∈ tuples.keys := by
  unfold previous at h
  split at h
  · cases hm : m.bind (·.lookup k) with
    | none => rw [hm] at h; cases h
    | some tuples => rw [hm] at h; exact ⟨tuples, rfl, h⟩
  · cases h

theorem mem_slide {n : Int} {tuples : Series} {e t : SampleTuple} (h : e ∈ (slide n tuples t).keys) :
    e = t ∨ e ∈ tuples.keys := (TreeKeys.mem_put h).imp_right TreeKeys.mem_keep

theorem size_slide {n : Int} (hn : 1 ≤ n) (tuples : Series) (t : SampleTuple) :
    ((slide n tuples t).size : Int) ≤ n := by
  have h₁ := (tuples.keep (n - 1).toNat).size_put_le t
  have h₂ := tuples.size_keep (n - 1).toNat
  unfold slide
  omega

/-- What a series holds: at least one tuple, at most `n`, each of them from
one of the samples. -/
structure Holds (n : Int) (ys : List Sample) (k : String) (tuples : Series) : Prop where
  nonempty : tuples.keys ≠ []
  limit : 1 ≤ n → (tuples.size : Int) ≤ n
  source : ∀ e ∈ tuples.keys, ∃ s ∈ ys, ∃ v, s.data.lookup k = some v ∧ e = tupleFrom s v

theorem seriesOf_holds {n : Int} (ys : List Sample) (k : String) {tuples : Series}
    (h : seriesOf n ys k = some tuples) : Holds n ys k tuples := by
  induction ys using List.reverseRecOn generalizing tuples with
  | nil => cases h
  | append_singleton ys s ih =>
    have keep : ∀ {t : Series}, seriesOf n ys k = some t → ∀ e ∈ t.keys,
        ∃ s' ∈ ys ++ [s], ∃ v, s'.data.lookup k = some v ∧ e = tupleFrom s' v := by
      intro t ht e he
      obtain ⟨s', hs', hv⟩ := (ih ht).source e he
      exact ⟨s', List.mem_append_left _ hs', hv⟩
    rw [seriesOf_concat] at h
    split at h
    · rename_i v hv
      cases h
      refine ⟨TreeKeys.put_ne_nil _ _, fun hn => size_slide hn _ _, fun e he => ?_⟩
      rcases mem_slide he with rfl | he
      · exact ⟨s, by simp, v, hv, rfl⟩
      · obtain ⟨t, ht, he⟩ := mem_previous he
        exact keep ht e he
    · exact ⟨(ih h).nonempty, (ih h).limit, keep h⟩

theorem seriesOf_isSome (n : Int) (ys : List Sample) (k : String) :
    (seriesOf n ys k).isSome = true ↔ ∃ s ∈ ys, k ∈ s.data := by
  induction ys using List.reverseRecOn with
  | nil => simp [seriesOf, sensorOf]
  | append_singleton ys s ih =>
    rw [seriesOf_concat]
    have hmem : (∃ s' ∈ ys ++ [s], k ∈ s'.data) ↔ (∃ s' ∈ ys, k ∈ s'.data) ∨ k ∈ s.data := by
      simp only [List.mem_append, List.mem_singleton, or_and_right, exists_or, exists_eq_left]
    rw [hmem, ← ih, ← AList.lookup_isSome (s := s.data)]
    cases s.data.lookup k <;> simp

theorem sensorOf_isSome (n : Int) (ys : List Sample) : (sensorOf n ys).isSome = true ↔ ∃ s, s ∈ ys := by
  induction ys using List.reverseRecOn with
  | nil => simp [sensorOf]
  | append_singleton ys s _ => simp only [sensorOf_concat, Option.isSome_some, true_iff]; exact ⟨s, by simp⟩

/-! ## The shape of the store and of its export -/

/-- The series of a platform, sensor type and key. -/
def seriesAt (c : SampleCollection) (p t k : String) : Option Series :=
  (c.sensorAt p t).bind (·.lookup k)

/-- The exported array of a platform, sensor type and key. -/
def arrayAt (F : SampleDateFormatter) (c : SampleCollection) (p t k : String) :
    Option (JSONArray (JSONObject Value)) :=
  (((c.platformJson F).lookup p).bind (·.lookup t)).bind (·.lookup k)

/-- The store shows the samples `xs`. -/
structure Represents (n : Int) (xs : List Sample) (c : SampleCollection) : Prop where
  nodes : ∀ p, c.hasNode p = true ↔ ∃ s ∈ xs, s.platformIdentifier = p
  sensors : ∀ p t, (c.sensorAt p t).isSome = true ↔ ∃ s ∈ xs, s.node = (p, t)
  keys : ∀ p t k, (c.seriesAt p t k).isSome = true ↔ ∃ s ∈ xs, s.node = (p, t) ∧ k ∈ s.data
  series : ∀ p t k tuples, c.seriesAt p t k = some tuples → tuples.keys ≠ [] ∧
    (tuples.keys.length : Int) ≤ n ∧
    tuples.keys.Pairwise (fun a b => a.timestamp.millis < b.timestamp.millis) ∧
    ∀ e ∈ tuples.keys, ∃ s ∈ xs, s.node = (p, t) ∧ ∃ v, s.data.lookup k = some v ∧ e = tupleFrom s v

/-- The exported object mirrors the store. -/
structure Mirrors (F : SampleDateFormatter) (c : SampleCollection) : Prop where
  nested : Dict.Rel (Dict.Rel (Dict.Rel fun tuples array => array = tuples.keys.map (entry F))) c.data
    (c.platformJson F)
  arrays : ∀ p t k array, c.arrayAt F p t k = some array → array ≠ [] ∧
    ∃ tuples : List SampleTuple, array = tuples.map (entry F) ∧
      tuples.Pairwise fun a b => a.timestamp.millis < b.timestamp.millis

theorem arrayAt_eq (F : SampleDateFormatter) (c : SampleCollection) (p t k : String) :
    c.arrayAt F p t k = (c.seriesAt p t k).map fun tuples => tuples.keys.map (entry F) := by
  unfold arrayAt seriesAt sensorAt getNode platformJson
  rw [Dict.lookup_build]
  cases c.data.lookup p with
  | none => rfl
  | some sensors =>
    simp only [Option.map_some, Option.bind_some, Dict.lookup_build]
    cases sensors.lookup t with
    | none => rfl
    | some values => simp only [Option.map_some, Option.bind_some, Dict.lookup_build]

theorem mem_ofNode {node : String × String} {xs : List Sample} {s : Sample} :
    s ∈ ofNode node xs ↔ s ∈ xs ∧ s.node = node := by
  simp [ofNode]

theorem After.represents {n : Int} (hn : 1 ≤ n) {xs : List Sample} {c : SampleCollection}
    (h : After n xs c) : Represents n xs c := by
  have hseries : ∀ p t k, c.seriesAt p t k = seriesOf n (ofNode (p, t) xs) k := by
    intro p t k
    rw [seriesAt, h.sensors, seriesOf]
  refine ⟨h.nodes, fun p t => ?_, fun p t k => ?_, fun p t k tuples ht => ?_⟩
  · rw [h.sensors, sensorOf_isSome]
    exact exists_congr fun s => mem_ofNode
  · rw [hseries, seriesOf_isSome]
    exact exists_congr fun s => by rw [mem_ofNode, and_assoc]
  · rw [hseries] at ht
    have hholds := seriesOf_holds _ k ht
    refine ⟨hholds.nonempty, hholds.limit hn, tuples.sorted, fun e he => ?_⟩
    obtain ⟨s, hs, hv⟩ := hholds.source e he
    exact ⟨s, (mem_ofNode.1 hs).1, (mem_ofNode.1 hs).2, hv⟩

theorem Represents.mirrors {n : Int} {xs : List Sample} {c : SampleCollection} (h : Represents n xs c)
    (F : SampleDateFormatter) : Mirrors F c := by
  refine ⟨?_, fun p t k array ha => ?_⟩
  · exact Dict.rel_build fun _ _ _ => Dict.rel_build fun _ _ _ => Dict.rel_build fun _ _ _ => rfl
  · rw [arrayAt_eq, Option.map_eq_some_iff] at ha
    obtain ⟨tuples, ht, rfl⟩ := ha
    have hs := h.series p t k tuples ht
    exact ⟨fun hnil => hs.1 (List.map_eq_nil_iff.1 hnil), tuples.keys, rfl, hs.2.2.1⟩

/-- **The store's shape.** For every limit of at least one and every sequence
of samples, no call faults and the store shows the samples and nothing else;
its export mirrors it. -/
theorem stored (F : SampleDateFormatter) {n : Int} (hn : 1 ≤ n) (xs : List Sample) :
    ∃ c, addAll (new n) xs = .ok c ∧ Represents n xs c ∧ Mirrors F c := by
  obtain ⟨c, hc, hafter⟩ := addAll_spec hn xs
  exact ⟨c, hc, hafter.represents hn, (hafter.represents hn).mirrors F⟩

/-- A store for one value a key gets a second key late: the series of the first starts anew. -/
def lateKey : List Sample :=
  [(Sample.transferSample ⟨0, 1⟩ ⟨5, "UTC"⟩ "node" "web").addItem "a" (.string "1"),
   ((Sample.transferSample ⟨0, 2⟩ ⟨3, "UTC"⟩ "node" "web").addItem "a" .null).addItem "b" (.long 2)]

theorem lateKey_stored : ∃ c, addAll (new 1) lateKey = .ok c ∧ Represents 1 lateKey c ∧
    Mirrors ⟨fun d => d.zone, fun d => d.zone⟩ c := stored _ (by decide) lateKey

/-! ## Sensors on their own -/

/-- The same nested maps. -/
def SameData (c c' : SampleCollection) : Prop :=
  Dict.Rel (Dict.Rel (Dict.Rel (· = ·))) c.data c'.data

/-- The same exported object, up to the order of keys. -/
def SameExport (F : SampleDateFormatter) (c c' : SampleCollection) : Prop :=
  Dict.Rel (Dict.Rel (Dict.Rel (· = ·))) (c.platformJson F) (c'.platformJson F)

theorem SameData.export {c c' : SampleCollection} (h : SameData c c') (F : SampleDateFormatter) :
    SameExport F c c' :=
  Dict.Rel.build h fun _ _ h => Dict.Rel.build h fun _ _ h => Dict.Rel.build h fun _ _ h => by rw [h]

/-- Stores with the same platforms, sensors and series hold the same data. -/
theorem sameData_of_series {c c' : SampleCollection} (hn : ∀ p, c.hasNode p = c'.hasNode p)
    (hs : ∀ p t, (c.sensorAt p t).isSome = (c'.sensorAt p t).isSome)
    (hk : ∀ p t k, c.seriesAt p t k = c'.seriesAt p t k) : SameData c c' := by
  intro p
  have hp := hn p
  have hpt := hs p
  have hptk := hk p
  simp only [hasNode, seriesAt, sensorAt, getNode] at hp hpt hptk
  cases h : c.data.lookup p <;> cases h' : c'.data.lookup p <;> simp only [h, h', Option.isSome_none,
    Option.isSome_some, Bool.false_eq_true, Bool.true_eq_false, Option.bind_some] at hp hpt hptk
  · exact .none
  rename_i sensors sensors'
  refine .some fun t => ?_
  have ht := hpt t
  have htk := hptk t
  cases h : sensors.lookup t <;> cases h' : sensors'.lookup t <;> simp only [h, h', Option.isSome_none,
    Option.isSome_some, Bool.false_eq_true, Bool.true_eq_false, Option.bind_some] at ht htk
  · exact .none
  refine .some fun k => ?_
  rw [htk k]
  exact Dict.Rel.refl (fun _ => rfl) _ k

/-- The same samples of every sensor in the same order. -/
def SameSensors (xs ys : List Sample) : Prop := ∀ node, ofNode node xs = ofNode node ys

theorem SameSensors.mem {xs ys : List Sample} (h : SameSensors xs ys) {s : Sample} (hs : s ∈ xs) :
    s ∈ ys := (mem_ofNode.1 (h s.node ▸ mem_ofNode.2 ⟨hs, rfl⟩)).1

theorem After.sameData {n : Int} {xs ys : List Sample} {c c' : SampleCollection} (h : After n xs c)
    (h' : After n ys c') (hsame : SameSensors xs ys) : SameData c c' := by
  have hs : ∀ p t, c.sensorAt p t = c'.sensorAt p t := by
    intro p t
    rw [h.sensors, h'.sensors, hsame]
  refine sameData_of_series (fun p => ?_) (fun p t => by rw [hs]) (fun p t k => by rw [seriesAt, hs]; rfl)
  rw [Bool.eq_iff_iff, h.nodes, h'.nodes]
  exact ⟨fun ⟨s, hs, hp⟩ => ⟨s, hsame.mem hs, hp⟩,
    fun ⟨s, hs, hp⟩ => ⟨s, SameSensors.mem (fun node => (hsame node).symm) hs, hp⟩⟩

/-- Neighbours of different sensors may change places. -/
theorem sameSensors_swap (xs : List Sample) {a b : Sample} (h : a.node ≠ b.node) :
    SameSensors (xs ++ [a] ++ [b]) (xs ++ [b] ++ [a]) := by
  intro node
  simp only [ofNode_concat]
  by_cases ha : a.node = node
  · have hb : b.node ≠ node := fun hb => h (ha.trans hb.symm)
    simp only [ha, hb, if_true, if_false]
  · simp only [ha, if_false]

/-- **Sensors do not disturb each other.** Two sequences with the same
samples of every sensor give the same store and export; in a store after any
sequence the order of two samples of different sensors does not matter. -/
theorem sensors_independent (F : SampleDateFormatter) {n : Int} (hn : 1 ≤ n) :
    (∀ xs ys, SameSensors xs ys → ∃ c c', addAll (new n) xs = .ok c ∧ addAll (new n) ys = .ok c' ∧
      SameData c c' ∧ SameExport F c c') ∧
    (∀ xs c a b, addAll (new n) xs = .ok c → a.node ≠ b.node →
      ∃ c₁ c₂, (c.addSample a >>= fun c => c.addSample b) = .ok c₁ ∧
        (c.addSample b >>= fun c => c.addSample a) = .ok c₂ ∧ SameData c₁ c₂ ∧ SameExport F c₁ c₂) := by
  constructor
  · intro xs ys hsame
    obtain ⟨c, hc, h⟩ := addAll_spec hn xs
    obtain ⟨c', hc', h'⟩ := addAll_spec hn ys
    have hdata := h.sameData h' hsame
    exact ⟨c, c', hc, hc', hdata, hdata.export F⟩
  · intro xs c a b hc hab
    have two : ∀ a b, ∃ c', (c.addSample a >>= fun c => c.addSample b) = .ok c' ∧
        After n (xs ++ [a] ++ [b]) c' := by
      intro a b
      obtain ⟨c₂, hc₂, h₂⟩ := addAll_spec hn (xs ++ [a] ++ [b])
      rw [addAll_concat, addAll_concat, hc] at hc₂
      exact ⟨c₂, hc₂, h₂⟩
    obtain ⟨c₁, hc₁, h₁⟩ := two a b
    obtain ⟨c₂, hc₂, h₂⟩ := two b a
    have hdata := h₁.sameData h₂ (sameSensors_swap xs hab)
    exact ⟨c₁, c₂, hc₁, hc₂, hdata, hdata.export F⟩

/-- Two sensors of one new platform. -/
def ofTwoSensors (first : Bool) : Sample :=
  (Sample.transferSample ⟨0, 1⟩ ⟨0, "UTC"⟩ "node" (if first then "web" else "load")).addItem "a" .null

theorem ofTwoSensors_independent : ∃ c c',
    addAll (new 1) [ofTwoSensors true, ofTwoSensors false] = .ok c ∧
    addAll (new 1) [ofTwoSensors false, ofTwoSensors true] = .ok c' ∧
    SameData c c' ∧ SameExport ⟨fun d => d.zone, fun d => d.zone⟩ c c' :=
  (sensors_independent _ (by decide)).1 _ _
    (sameSensors_swap [] (show (ofTwoSensors true).node ≠ (ofTwoSensors false).node by decide))

end SensorSamplor.SampleCollection
