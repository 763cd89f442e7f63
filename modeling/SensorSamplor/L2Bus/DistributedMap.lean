import SensorSamplor.Core.JavaText
import SensorSamplor.L1Data.Sample

/-!
# The map on the bus

`DistributedMap` keeps samples in a Hazelcast map under the key
`platform-type`. A value of the model carries the fact that every sample is
stored under its own key, which `put` keeps.

The key is an unescaped join, so two nodes and sensors can share one key,
and then one evicts the other. `keepsLast_iff` says exactly when that does
not happen: the buffer keeps the last sample of every platform and sensor
type that was put, and nothing else, if and only if no two of the pairs
shift into each other at the delimiter (`JavaText.Shifts`).
-/
namespace SensorSamplor

open SensorSamplor.Core SensorSamplor.Core.JavaText

/-- mirrors base/bus/DistributedMap.java:19 -/
def ID_DELIMITER : String := "-"

/-- mirrors base/bus/DistributedMap.java:35-37 -/
def createKeyOf (sample : Sample) : String :=
  sample.platformIdentifier ++ ID_DELIMITER ++ sample.sensorType

/-- mirrors base/bus/DistributedMap.java:17-29 -/
structure DistributedMap where
  map : Dict String Sample
  /-- every sample is stored under its own key -/
  keyed : ∀ k v, map.lookup k = some v → createKeyOf v = k

namespace DistributedMap

def empty : DistributedMap := ⟨∅, fun k v h => by simp at h⟩

/-- mirrors base/bus/DistributedMap.java:31-33 -/
def put (m : DistributedMap) (t : Sample) : DistributedMap where
  map := m.map.insert (createKeyOf t) t
  keyed k v h := by
    by_cases hk : k = createKeyOf t
    · subst hk; rw [AList.lookup_insert] at h; cases h; rfl
    · rw [AList.lookup_insert_ne hk] at h; exact m.keyed k v h

/-- mirrors base/bus/DistributedMap.java:43-45 -/
def getCurrentEntries (m : DistributedMap) : List Sample := m.map.values

/-- The entries kept for one platform and sensor type. -/
def entriesOf (m : DistributedMap) (node : String × String) : List Sample :=
  m.getCurrentEntries.filter fun s => decide (s.node = node)

/-- A sequence of `put` calls on a new map. -/
def putAll (puts : List Sample) : DistributedMap := puts.foldl put empty

theorem foldl_put_map (puts : List Sample) (m : DistributedMap) :
    (puts.foldl put m).map = puts.foldl (fun d t => d.insert (createKeyOf t) t) m.map := by
  induction puts generalizing m with
  | nil => rfl
  | cons t puts ih => exact ih (m.put t)

/-- Under each key stands the last sample put there. -/
theorem lookup_putAll (puts : List Sample) (k : String) :
    (putAll puts).map.lookup k = (puts.filter fun s => decide (createKeyOf s = k)).getLast? := by
  unfold putAll
  rw [foldl_put_map, Dict.lookup_foldl_insert createKeyOf (fun s => s)]
  simp [empty]

theorem mem_puts {puts : List Sample} {v : Sample} (h : v ∈ (putAll puts).getCurrentEntries) :
    v ∈ puts := by
  obtain ⟨k, hk⟩ := Dict.mem_values.1 h
  rw [lookup_putAll] at hk
  exact List.mem_of_mem_filter (List.mem_of_getLast? hk)

/-- At most one entry has a given key. -/
theorem entries_with_key (m : DistributedMap) (k : String) :
    m.getCurrentEntries.filter (fun s => decide (createKeyOf s = k)) = (m.map.lookup k).toList :=
  Dict.filter_values m.keyed k

theorem entry_unique {m : DistributedMap} {a b : Sample} (ha : a ∈ m.getCurrentEntries)
    (hb : b ∈ m.getCurrentEntries) (hk : createKeyOf a = createKeyOf b) : a = b := by
  have ea : a ∈ (m.map.lookup (createKeyOf b)).toList := by
    rw [← entries_with_key]; simp [ha, hk]
  have eb : b ∈ (m.map.lookup (createKeyOf b)).toList := by
    rw [← entries_with_key]; simp [hb]
  simp only [Option.mem_toList] at ea eb
  rw [ea, Option.some.injEq] at eb
  exact eb

/-! ## When the key tells the nodes apart -/

/-- No sample's platform and sensor type shift into another's. -/
def NoShift (puts : List Sample) : Prop :=
  ∀ a ∈ puts, ∀ b ∈ puts,
    ¬ Shifts ID_DELIMITER a.platformIdentifier a.sensorType b.platformIdentifier b.sensorType

theorem NoShift.sublist {puts puts' : List Sample} (h : NoShift puts) (hs : puts'.Sublist puts) :
    NoShift puts' := fun a ha b hb => h a (hs.subset ha) b (hs.subset hb)

theorem key_eq_iff (a b : Sample) : createKeyOf a = createKeyOf b ↔ a.node = b.node ∨
    Shifts ID_DELIMITER a.platformIdentifier a.sensorType b.platformIdentifier b.sensorType ∨
    Shifts ID_DELIMITER b.platformIdentifier b.sensorType a.platformIdentifier a.sensorType := by
  unfold createKeyOf Sample.node
  rw [join_eq_iff (c := '-') (by decide), Prod.mk.injEq]

theorem node_ne_of_shifts {a b : Sample}
    (h : Shifts ID_DELIMITER a.platformIdentifier a.sensorType b.platformIdentifier b.sensorType) :
    a.node ≠ b.node := by
  obtain ⟨m, hp, -⟩ := h
  intro hn
  have hl : a.platformIdentifier.toList.length = b.platformIdentifier.toList.length :=
    congrArg (fun n : String × String => n.1.toList.length) hn
  rw [hp] at hl
  simp [ID_DELIMITER] at hl

theorem node_eq_iff {puts : List Sample} (h : NoShift puts) {a b : Sample} (ha : a ∈ puts)
    (hb : b ∈ puts) : a.node = b.node ↔ createKeyOf a = createKeyOf b := by
  rw [key_eq_iff]
  simp [h a ha b hb, h b hb a ha]

/-- Without shifts the entries of a node are the last sample put for it. -/
theorem entriesOf_putAll {puts : List Sample} (h : NoShift puts) (node : String × String) :
    (putAll puts).entriesOf node =
      (puts.filter fun s => decide (s.node = node)).getLast?.toList := by
  unfold entriesOf
  by_cases hex : ∃ a ∈ puts, a.node = node
  · obtain ⟨a, ha, rfl⟩ := hex
    have same : ∀ v ∈ puts, decide (v.node = a.node) = decide (createKeyOf v = createKeyOf a) :=
      fun v hv => decide_eq_decide.2 (node_eq_iff h hv ha)
    rw [List.filter_congr fun v hv => same v (mem_puts hv), List.filter_congr same,
      entries_with_key, lookup_putAll]
  · have none : ∀ v ∈ puts, ¬ decide (v.node = node) = true :=
      fun v hv hn => hex ⟨v, hv, of_decide_eq_true hn⟩
    rw [List.filter_eq_nil_iff.2 none, List.filter_eq_nil_iff.2 fun v hv => none v (mem_puts hv)]
    rfl

/-- What the buffer is for: for every platform and sensor type that was put,
exactly the last sample put for it, and nothing else; a put leaves the
entries of every other platform and sensor type alone. -/
structure KeepsLast (puts : List Sample) : Prop where
  last : ∀ node, (putAll puts).entriesOf node =
    (puts.filter fun s => decide (s.node = node)).getLast?.toList
  others : ∀ before s after, puts = before ++ s :: after → ∀ node, s.node ≠ node →
    (putAll (before ++ [s])).entriesOf node = (putAll before).entriesOf node

/-- **One entry a node.** A sequence of puts keeps the last sample of every
platform and sensor type exactly when no two of them shift into each other
at the key's delimiter. -/
theorem keepsLast_iff (puts : List Sample) : KeepsLast puts ↔ NoShift puts := by
  refine ⟨fun h a ha b hb hs => ?_, fun h => ⟨entriesOf_putAll h, ?_⟩⟩
  · have stored : ∀ x ∈ puts, ∃ v ∈ (putAll puts).getCurrentEntries, v.node = x.node := by
      intro x hx
      have hne : puts.filter (fun s => decide (s.node = x.node)) ≠ [] :=
        List.ne_nil_of_mem (a := x) (by simp [hx])
      have hv : (puts.filter fun s => decide (s.node = x.node)).getLast hne ∈
          (putAll puts).entriesOf x.node := by
        rw [h.last, List.getLast?_eq_getLast_of_ne_nil hne]; simp
      simp only [entriesOf, List.mem_filter, decide_eq_true_eq] at hv
      exact ⟨_, hv⟩
    obtain ⟨va, hva, na⟩ := stored a ha
    obtain ⟨vb, hvb, nb⟩ := stored b hb
    have hk : createKeyOf va = createKeyOf vb := by
      rw [(key_eq_iff va a).2 (.inl na), (key_eq_iff vb b).2 (.inl nb)]
      exact (key_eq_iff a b).2 (.inr (.inl hs))
    have := entry_unique hva hvb hk
    exact node_ne_of_shifts hs (by rw [← na, ← nb, this])
  · rintro before s after rfl node hne
    have hpre : (before ++ [s]).Sublist (before ++ s :: after) :=
      List.Sublist.append_left (by simp) before
    rw [entriesOf_putAll (h.sublist hpre), entriesOf_putAll (h.sublist (List.sublist_append_left ..))]
    simp [List.filter_append, hne]

/-- A platform `node` whose HTTP sensor is named `1-temperature`, and a
platform `node-1` with a temperature sensor. -/
def shiftingPuts : List Sample :=
  [.transferSample ⟨0, 1⟩ ⟨0, "UTC"⟩ "node" "1-temperature",
   .transferSample ⟨0, 2⟩ ⟨0, "UTC"⟩ "node-1" "temperature"]

/-- The second put takes the first one's entry away. -/
theorem shiftingPuts_lost : ¬ KeepsLast shiftingPuts := by
  intro h
  exact absurd (h.last ("node", "1-temperature")) (by decide)

end DistributedMap
end SensorSamplor
