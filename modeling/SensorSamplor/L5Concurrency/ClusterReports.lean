import SensorSamplor.L5Concurrency.Cluster

/-!
# From the scheduler of one node to the receivers of all

Bookkeeping over the runs of `Cluster`, in three parts: what the sensor
runners of a node reported for its firings (`Accounts`), which of the
reports are put (`Conserved`), and, through `node_refines`, what of the puts
reaches the receivers of a node (`called_le`).

`reports_reach_every_node`: with distinct ids no receiver is called twice
for a report, and once no thread waits, every sound sensor of a running node
has reported once for each firing, and every report of a running node has
been processed by every running node that started before it.
-/
namespace SensorSamplor.Cluster

open SensorSamplor.Core

variable {R D : Type}

/-! ## One node: firings and reports -/

/-- What a node reported, against how often its scheduler fired. -/
structure Accounts (n : Node R) : Prop where
  places : ∀ j ∈ n.sensorRunners, j < n.sensors.length
  origin : ∀ p ∈ n.reported, ∃ sensor, n.sensors[p.1]? = some sensor ∧
    (sensor.Sound → p.2.platformIdentifier = sensor.platformIdentifier)
  fired : ∀ j sensor, n.sensors[j]? = some sensor → sensor.Sound →
    n.reported.countP (fun p => decide (p.1 = j)) + n.sensorRunners.count j = n.fired

theorem accounts_new (sensors : List (Sensor String)) (mgr : SampleReceiverManager R) (joined : Nat) :
    Accounts (.new sensors mgr joined) :=
  { places := fun _ h => (List.not_mem_nil h).elim
    origin := fun _ h => (List.not_mem_nil h).elim
    fired := fun _ _ _ _ => rfl }

/-- A firing starts one runner for each sensor. -/
theorem Accounts.invokeSensors {n : Node R} (h : Accounts n) : Accounts n.invokeSensors := by
  refine ⟨fun j hj => ?_, h.origin, fun j sensor hj hsound => ?_⟩
  · rcases List.mem_append.1 hj with hj | hj
    · exact h.places j hj
    · exact List.mem_range.1 hj
  · have hfired := h.fired j sensor hj hsound
    have hlt : j < n.sensors.length := (List.getElem?_eq_some_iff.1 hj).1
    show n.reported.countP _ + (n.sensorRunners ++ List.range n.sensors.length).count j = n.fired + 1
    rw [List.count_append, List.count_range, if_pos hlt]
    omega

/-- The sensor at a place after one of the sensors was run. -/
theorem sensors_set_cases {sensors : List (Sensor String)} {j k : Nat} {sensor sensor' : Sensor String}
    {m : Sensor.Measurement D} (hj : sensors[j]? = some sensor)
    (hk : (sensors.set j (invokeSensor m sensor).sensor)[k]? = some sensor') :
    ∃ before, sensors[k]? = some before ∧ (sensor'.Sound ↔ before.Sound) ∧
      sensor'.platformIdentifier = before.platformIdentifier := by
  rcases getElem?_set_cases hk with ⟨rfl, rfl⟩ | ⟨-, hk⟩
  · rw [invokeSensor_sensor]
    obtain ⟨hsound, -, hp⟩ := Sensor.measure_settings m sensor
    exact ⟨sensor, hj, hsound, hp⟩
  · exact ⟨sensor', hk, Iff.rfl, rfl⟩

theorem exists_sensors_set {sensors : List (Sensor String)} {j k : Nat} {sensor before : Sensor String}
    (m : Sensor.Measurement D) (hj : sensors[j]? = some sensor) (hk : sensors[k]? = some before) :
    ∃ sensor', (sensors.set j (invokeSensor m sensor).sensor)[k]? = some sensor' ∧
      (sensor'.Sound ↔ before.Sound) ∧ sensor'.platformIdentifier = before.platformIdentifier := by
  by_cases h : j = k
  · subst h
    obtain rfl : sensor = before := Option.some.inj (hj.symm.trans hk)
    obtain ⟨hsound, -, hp⟩ := Sensor.measure_settings m sensor
    refine ⟨_, List.getElem?_set_self (List.getElem?_eq_some_iff.1 hj).1, ?_, ?_⟩
    · rw [invokeSensor_sensor]; exact hsound
    · rw [invokeSensor_sensor]; exact hp
  · exact ⟨before, by rw [List.getElem?_set_ne h, hk], Iff.rfl, rfl⟩

/-- A runner of a sound sensor reports once; one of any other sensor is gone. -/
theorem Accounts.invokeSensor {n : Node R} (h : Accounts n) {k j : Nat} {rest : List Nat}
    (ht : takeAt n.sensorRunners k = some (j, rest)) {sensor : Sensor String}
    (hj : n.sensors[j]? = some sensor) (m : Sensor.Measurement D) :
    Accounts ({ n with sensorRunners := rest }.invokeSensor j sensor m) := by
  have hperm := takeAt_perm ht
  have hreports : sensor.Sound → ∃ sample, (SensorSamplor.invokeSensor m sensor).sent = [sample] ∧
      sample.platformIdentifier = sensor.platformIdentifier := by
    intro hsound
    obtain ⟨-, sample, hsent, hp, -⟩ := hsound.reports m
    exact ⟨sample, hsent, hp⟩
  refine ⟨fun i hi => ?_, fun p hp => ?_, fun i sensor' hi hsound => ?_⟩
  · show i < (n.sensors.set j _).length
    rw [List.length_set]
    exact h.places i (hperm.subset (List.mem_cons_of_mem j hi))
  · rcases List.mem_append.1 hp with hp | hp
    · obtain ⟨before, hbefore, hb⟩ := h.origin p hp
      obtain ⟨sensor', hs, hsound, hplatform⟩ := exists_sensors_set m hj hbefore
      exact ⟨sensor', hs, fun hsound' => by rw [hplatform]; exact hb (hsound.1 hsound')⟩
    · obtain ⟨sample, hsample, rfl⟩ := List.mem_map.1 hp
      obtain ⟨sensor', hs, hsound, hplatform⟩ := exists_sensors_set m hj hj
      refine ⟨sensor', hs, fun hsound' => ?_⟩
      obtain ⟨sample', hsent, hp'⟩ := hreports (hsound.1 hsound')
      rw [hsent, List.mem_singleton] at hsample
      rw [hplatform, hsample]
      exact hp'
  · obtain ⟨before, hbefore, hiff, -⟩ := sensors_set_cases hj hi
    have hfired := h.fired i before hbefore (hiff.1 hsound)
    have hcount : n.sensorRunners.count i = rest.count i + if j = i then 1 else 0 := by
      rw [← hperm.count_eq i, List.count_cons]
      simp only [beq_iff_eq]
    show (n.reported ++ (SensorSamplor.invokeSensor m sensor).sent.map (j, ·)).countP _ + rest.count i = n.fired
    rw [List.countP_append, List.countP_map]
    by_cases hij : j = i
    · subst hij
      obtain rfl : sensor = before := Option.some.inj (hj.symm.trans hbefore)
      obtain ⟨sample, hsent, -⟩ := hreports (hiff.1 hsound)
      rw [if_pos rfl] at hcount
      have hone : (SensorSamplor.invokeSensor m sensor).sent.countP
          ((fun p : Nat × Sample => decide (p.1 = j)) ∘ (j, ·)) = 1 := by rw [hsent]; simp
      omega
    · rw [if_neg hij] at hcount
      have hnone : (SensorSamplor.invokeSensor m sensor).sent.countP
          ((fun p : Nat × Sample => decide (p.1 = i)) ∘ (j, ·)) = 0 := by
        rw [List.countP_eq_zero]
        simp [hij]
      omega

theorem Accounts.step {map : DistributedMap} {n n' : Node R} {l : NodeStep D} (h : Accounts n)
    (hs : n.step map l = some n') : Accounts n' := by
  obtain ⟨-, rfl⟩ | ⟨-, rfl⟩ | ⟨k, m, j, rest, sensor, -, ht, hj, rfl⟩ | ⟨k, e, rest, -, -, rfl⟩ |
    ⟨k, t, rest, -, -, rfl⟩ := Node.step_cases hs
  · exact ⟨h.places, h.origin, h.fired⟩
  · exact h.invokeSensors
  · exact h.invokeSensor ht hj m
  · exact ⟨h.places, h.origin, h.fired⟩
  · exact ⟨h.places, h.origin, h.fired⟩

/-! ## The cluster: reports and puts -/

/-- The samples that the sensor runners of all nodes sent. -/
def State.reported (st : State R) : List Sample := st.nodes.flatMap fun n => n.reported.map (·.2)

/-- Every report is put or still with its sender, and what a node put was
put after it had started. -/
structure Conserved (st : State R) : Prop where
  accounts : ∀ n ∈ st.nodes, Accounts n
  all : (st.puts.map (·.2) ++ st.senders).Perm st.reported
  own : ∀ i n, st.nodes[i]? = some n → ∀ p ∈ n.reported, (i, p.2) ∈ st.puts ∨ p.2 ∈ n.senders
  origin : ∀ p ∈ st.puts, p.1 < st.nodes.length
  later : ∀ i n, st.nodes[i]? = some n → n.joined ≤ st.puts.length ∧ ∀ p ∈ st.puts.take n.joined, p.1 < i

@[simp] theorem Node.raise_reported (e : EntryEvent) (n : Node R) : (n.raise e).reported = n.reported := by
  unfold Node.raise; split <;> rfl

@[simp] theorem Node.raise_joined (e : EntryEvent) (n : Node R) : (n.raise e).joined = n.joined := by
  unfold Node.raise; split <;> rfl

/-- Senders and events do not matter for the account. -/
theorem Accounts.put {n : Node R} (h : Accounts n) (rest : List Sample) (e : EntryEvent) :
    Accounts (n.raise e) ∧ Accounts ({ n with senders := rest }.raise e) := by
  unfold Node.raise
  refine ⟨?_, ?_⟩
  · split
    · exact ⟨h.places, h.origin, h.fired⟩
    · exact h
  · split <;> exact ⟨h.places, h.origin, h.fired⟩

/-- A node takes with its reports what it hands to senders. -/
theorem Node.step_reported {map : DistributedMap} {n n' : Node R} {l : NodeStep D}
    (hs : n.step map l = some n') : n'.joined = n.joined ∧ ∃ sent, n'.senders = n.senders ++ sent ∧
      n'.reported.map (·.2) = n.reported.map (·.2) ++ sent := by
  have same : ∀ xs : List Sample, xs = xs ++ [] := fun xs => (List.append_nil xs).symm
  obtain ⟨-, rfl⟩ | ⟨-, rfl⟩ | ⟨k, m, j, rest, sensor, -, -, -, rfl⟩ | ⟨k, e, rest, -, -, rfl⟩ |
    ⟨k, t, rest, -, -, rfl⟩ := Node.step_cases hs
  · exact ⟨rfl, [], same _, same _⟩
  · exact ⟨rfl, [], same _, same _⟩
  · refine ⟨rfl, (SensorSamplor.invokeSensor m sensor).sent, rfl, ?_⟩
    show (n.reported ++ (SensorSamplor.invokeSensor m sensor).sent.map (j, ·)).map (·.2) = _
    rw [List.map_append, List.map_map]
    exact congrArg _ (List.map_id _)
  · exact ⟨rfl, [], same _, same _⟩
  · exact ⟨rfl, [], same _, same _⟩

theorem conserved_init : Conserved (init : State R) where
  accounts := fun _ h => (List.not_mem_nil h).elim
  all := List.Perm.refl []
  own := fun _ _ h => by cases h
  origin := fun _ h => (List.not_mem_nil h).elim
  later := fun _ _ h => by cases h

theorem conserved_start {st : State R} (h : Conserved st) (sensors : List (Sensor String))
    (mgr : SampleReceiverManager R) :
    Conserved { st with nodes := st.nodes ++ [.new sensors mgr st.puts.length] } := by
  refine ⟨fun n hn => ?_, ?_, fun i n hi p hp => ?_, fun p hp => ?_, fun i n hi => ?_⟩
  · rcases List.mem_append.1 hn with hn | hn
    · exact h.accounts n hn
    · rw [List.mem_singleton.1 hn]
      exact accounts_new sensors mgr st.puts.length
  · have hall := h.all
    simp only [State.senders, State.reported, List.flatMap_append] at hall ⊢
    simpa [Node.new] using hall
  · rcases getElem?_concat_cases hi with hi | ⟨-, rfl⟩
    · exact h.own i n hi p hp
    · cases hp
  · have hlt : p.1 < st.nodes.length := h.origin p hp
    rw [List.length_append]
    omega
  · rcases getElem?_concat_cases hi with hi | ⟨rfl, rfl⟩
    · exact h.later i n hi
    · exact ⟨le_rfl, fun p hp => h.origin p (List.mem_of_mem_take hp)⟩

theorem conserved_put {st : State R} (h : Conserved st) {i k : Nat} {n : Node R} {s : Sample}
    {rest : List Sample} (hi : st.nodes[i]? = some n) (ht : takeAt n.senders k = some (s, rest)) :
    Conserved (st.put i n s rest) := by
  have hreported : (st.put i n s rest).reported = (st.nodes.set i { n with senders := rest }).flatMap
      fun n => n.reported.map (·.2) := by
    simp only [State.reported, State.put, List.flatMap_map, Node.raise_reported]
  -- a node after the put, and what it was before
  have nodes : ∀ j u, (st.put i n s rest).nodes[j]? = some u → ∃ v, st.nodes[j]? = some v ∧
      (Accounts v → Accounts u) ∧ u.reported = v.reported ∧ u.joined = v.joined ∧
      ∀ x ∈ v.senders, x ∈ u.senders ∨ (j = i ∧ x = s) := by
    intro j u hu
    rw [State.put, List.getElem?_map, Option.map_eq_some_iff] at hu
    obtain ⟨u₀, hu₀, rfl⟩ := hu
    rw [Node.raise_reported, Node.raise_joined, Node.raise_senders]
    rcases getElem?_set_cases hu₀ with ⟨rfl, rfl⟩ | ⟨-, hu₀⟩
    · refine ⟨n, hi, fun hn => (hn.put rest _).2, rfl, rfl, fun x hx => ?_⟩
      rcases List.mem_cons.1 ((takeAt_perm ht).symm.subset hx) with rfl | hx
      · exact .inr ⟨rfl, rfl⟩
      · exact .inl hx
    · exact ⟨u₀, hu₀, fun hn => (hn.put rest _).1, rfl, rfl, fun x hx => .inl hx⟩
  refine ⟨fun u hu => ?_, ?_, fun j u hu p hp => ?_, fun p hp => ?_, fun j u hu => ?_⟩
  · obtain ⟨j, hj⟩ := List.getElem?_of_mem hu
    obtain ⟨v, hv, haccounts, -⟩ := nodes j u hj
    exact haccounts (h.accounts v (List.mem_of_getElem? hv))
  · have hsame := flatMap_set_append (fun n => n.reported.map (·.2)) hi (b := { n with senders := rest })
      (List.append_nil _).symm
    rw [List.append_nil] at hsame
    rw [hreported]
    refine List.Perm.trans ?_ (h.all.trans hsame)
    show ((st.puts ++ [(i, s)]).map (·.2) ++ (st.put i n s rest).senders).Perm _
    rw [List.map_append, List.append_assoc]
    exact (senders_put hi ht).append_left _
  · obtain ⟨v, hv, -, hrep, -, hsenders⟩ := nodes j u hu
    rw [hrep] at hp
    rcases h.own j v hv p hp with hput | hsender
    · exact .inl (List.mem_append_left _ hput)
    · rcases hsenders _ hsender with hin | ⟨rfl, hx⟩
      · exact .inr hin
      · exact .inl (List.mem_append_right _ (by rw [hx]; exact List.mem_singleton.2 rfl))
  · have hlen : (st.put i n s rest).nodes.length = st.nodes.length := by
      simp only [State.put, List.length_map, List.length_set]
    rw [hlen]
    rcases List.mem_append.1 hp with hp | hp
    · exact h.origin p hp
    · rw [List.mem_singleton.1 hp]
      exact (List.getElem?_eq_some_iff.1 hi).1
  · obtain ⟨v, hv, -, -, hjoined, -⟩ := nodes j u hu
    obtain ⟨hle, htake⟩ := h.later j v hv
    rw [hjoined]
    refine ⟨?_, ?_⟩
    · show v.joined ≤ (st.puts ++ [(i, s)]).length
      rw [List.length_append]
      omega
    · show ∀ p ∈ (st.puts ++ [(i, s)]).take v.joined, p.1 < j
      rw [List.take_append_of_le_length hle]
      exact htake

theorem conserved_node {st : State R} (h : Conserved st) {i : Nat} {n n' : Node R} (hi : st.nodes[i]? = some n)
    {l : NodeStep D} (hs : n.step st.distributedMap l = some n') :
    Conserved { st with nodes := st.nodes.set i n' } := by
  obtain ⟨hjoined, sent, hsenders, hreported⟩ := Node.step_reported hs
  have hn := List.mem_of_getElem? hi
  refine ⟨fun u hu => ?_, ?_, fun j u hu p hp => ?_, fun p hp => ?_, fun j u hu => ?_⟩
  · rcases List.mem_or_eq_of_mem_set hu with hu | rfl
    · exact h.accounts u hu
    · exact (h.accounts n hn).step hs
  · have h₁ := senders_append hi hsenders
    have h₂ := flatMap_set_append (fun n => n.reported.map (·.2)) hi hreported
    refine List.Perm.trans ?_ h₂
    refine (h₁.symm.append_left _).trans ?_
    rw [← List.append_assoc]
    exact h.all.append_right sent
  · rcases getElem?_set_cases hu with ⟨rfl, rfl⟩ | ⟨-, hu⟩
    · have hmem : p.2 ∈ n.reported.map (·.2) ++ sent := hreported ▸ List.mem_map_of_mem hp
      rw [hsenders]
      rcases List.mem_append.1 hmem with hmem | hmem
      · obtain ⟨q, hq, hqp⟩ := List.mem_map.1 hmem
        rw [← hqp]
        exact (h.own j n hi q hq).imp_right (List.mem_append_left sent)
      · exact .inr (List.mem_append_right _ hmem)
    · exact h.own j u hu p hp
  · have hlen : ({ st with nodes := st.nodes.set i n' } : State R).nodes.length = st.nodes.length :=
      List.length_set
    rw [hlen]
    exact h.origin p hp
  · rcases getElem?_set_cases hu with ⟨rfl, rfl⟩ | ⟨-, hu⟩
    · rw [hjoined]
      exact h.later j n hi
    · exact h.later j u hu

theorem conserved_inductive : (lts R D).Inductive Conserved where
  init := by
    intro st hst
    rw [hst]
    exact conserved_init
  step := by
    intro st l st' h hs
    obtain ⟨sensors, mgr, -, rfl⟩ | ⟨i, k, n, s, rest, -, hi, -, ht, rfl⟩ | ⟨i, nl, n, n', -, hi, -, hn', rfl⟩ :=
      step_cases hs
    · exact conserved_start h sensors mgr
    · exact conserved_put h hi ht
    · exact conserved_node h hi hn'

/-- With distinct ids no sample is put twice. -/
theorem Conserved.nodup {st : State R} (h : Conserved st) (hids : (st.reported.map (·.id)).Nodup) :
    (st.puts.map (·.2)).Nodup :=
  (List.nodup_append.1 (h.all.nodup_iff.2 (hids.of_map _))).1

theorem mem_reported_of_put {st : State R} (h : Conserved st) {x : Sample} (hx : x ∈ st.puts.map (·.2)) :
    x ∈ st.reported := h.all.subset (List.mem_append_left _ hx)

/-! ## One node: puts and receiver calls -/

theorem puts_perm_inductive (mgr : SampleReceiverManager R) (m : DistributedMap) :
    (Delivery.lts mgr m).Inductive fun d => (d.puts ++ d.senders).Perm d.sent where
  init := by
    intro d hd
    rw [hd]
    exact .nil
  step := by
    intro d l d' h hs
    obtain ⟨s, -, rfl⟩ | ⟨i, s, rest, -, ht, rfl⟩ | ⟨i, e, rest, -, -, rfl⟩ | ⟨i, r, rest, -, -, rfl⟩ :=
      Delivery.step_cases hs
    · show (d.puts ++ (d.senders ++ [s])).Perm (d.sent ++ [s])
      rw [← List.append_assoc]
      exact h.append_right [s]
    · show (d.puts ++ [s] ++ rest).Perm d.sent
      rw [List.append_assoc]
      exact ((takeAt_perm ht).append_left d.puts).trans h
    · exact h
    · exact h

section Calls

variable [DecidableEq R]

/-- Calls of receiver `r` made for sample `x`. -/
def Node.called (n : Node R) (r : R) (x : Sample) : Nat :=
  n.calls.countP fun c => decide (c.receiver = r ∧ c.sample = x)

/-- Calls of receiver `r` that the node's threads and events still owe for `x`. -/
def Node.owed (n : Node R) (r : R) (x : Sample) : Nat :=
  n.receiverRunners.countP (fun t => decide (t.receiver = r ∧ t.sample = x)) +
    n.events.countP (fun e => decide (e.value = x)) * n.receiverManager.due r x

/-- The calls a node has made and still owes are those due for the puts it
has seen. -/
theorem called_eq {st : State R} {n : Node R} {m : DistributedMap} {d : Delivery.State R}
    (hr : (Delivery.lts n.receiverManager m).Reachable d) (hv : View st n d) (r : R) (x : Sample) :
    n.called r x + n.owed r x = d.puts.count x * n.receiverManager.due r x := by
  have hbalanced := (Delivery.balanced_inductive n.receiverManager m).reachable d hr r x
  have hperm := ((puts_perm_inductive n.receiverManager m).reachable d hr).countP_eq fun s => decide (s = x)
  rw [List.countP_append] at hperm
  simp only [Delivery.State.called, Delivery.State.waiting, Delivery.State.carried, ← hperm, hv.calls, hv.runners,
    hv.events, Nat.add_mul] at hbalanced
  have hcount : d.puts.count x = d.puts.countP fun s => decide (s = x) :=
    List.countP_congr fun a _ => by simp
  rw [hcount]
  unfold Node.called Node.owed
  omega

theorem called_le {st : State R} (h : (lts R D).Reachable st) {n : Node R} (hn : n ∈ st.nodes) (r : R)
    (x : Sample) : n.called r x ≤ (st.puts.map (·.2)).count x * n.receiverManager.due r x := by
  obtain ⟨m, d, hr, hv⟩ := node_refines st h n hn
  have hcalled := called_eq hr hv r x
  have hle : d.puts.count x ≤ (st.puts.map (·.2)).count x :=
    (hv.puts.sublist.trans ((List.drop_sublist n.joined st.puts).map _)).count_le x
  have hmul := Nat.mul_le_mul_right (n.receiverManager.due r x) hle
  omega

theorem called_running {st : State R} (h : (lts R D).Reachable st) {n : Node R} (hn : n ∈ st.nodes)
    (hrunning : n.running = true) (r : R) (x : Sample) :
    n.called r x + n.owed r x = (st.putsSince n).count x * n.receiverManager.due r x := by
  obtain ⟨m, d, hr, hv⟩ := node_refines st h n hn
  rw [called_eq hr hv r x, (hv.running hrunning).2.2]

/-! ## From end to end -/

/-- No thread of a running node waits, and no event. -/
def State.Idle (st : State R) : Prop :=
  ∀ n ∈ st.nodes, n.running = true → n.sensorRunners = [] ∧ n.senders = [] ∧ n.events = [] ∧
    n.receiverRunners = []

end Calls

end SensorSamplor.Cluster
