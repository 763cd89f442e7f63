import SensorSamplor.L5Concurrency.Monitors

/-!
# What the monitors make atomic

The interleavings of `Monitors` do nothing that those of `Exporter`, whose
calls have three atomic steps, do not do too. The import takes effect when
the receiver's monitor is left. A sample takes effect when it is added,
unless another thread writes the file at that time: the file shows the
collection without it, but the export ends after it. Then it is late, and
takes effect right after the export. The clock of `Exporter` stands still
between two exports.
-/
namespace SensorSamplor.Monitors

open SensorSamplor.Core JsonExporterSampleReceiver Exporter

variable {r : JsonExporterSampleReceiver} {F : SampleDateFormatter}
  {toJSONString : JSONObject (JSONObject (JSONObject (JSONArray (JSONObject Value)))) → String} {n : Int}
  {calls : List Call}

/-! ## Steps of the atomic calls -/

section Atomic
variable {a : Pool Exporter.Shared Exporter.Thread} {i : Nat} {call : Call}

/-- The state with the samples `late` added and another collection. -/
def ahead (a : Exporter.Shared) (c : SampleCollection) (w : World) (late : List Sample) : Exporter.Shared :=
  { a with statics := { a.statics with sampleCollection := c }, world := w, added := a.added ++ late }

theorem atomic_import {c : SampleCollection} (ht : a.threads[i]? = some ⟨call, .importing⟩)
    (hf : a.shared.statics.firstRun = true)
    (hc : call.sampleBuffer.foldlM r.addToCollection a.shared.statics.sampleCollection = .ok c) :
    (Exporter.lts r F toJSONString n calls).step a (i, ⟨0, .success 0⟩)
      ⟨{ a.shared with
          statics := { a.shared.statics with sampleCollection := c, firstRun := false },
          imported := a.shared.imported ++ [i] },
        a.threads.set i ⟨call, .adding⟩⟩ := by
  refine Pool.step_iff.2 ⟨_, _, _, ht, ?_, rfl⟩
  simp [Exporter.body, Exporter.Shared.tick, importCompleteBufferIfFirstRun, hf, hc, Except.map]

theorem atomic_later (ht : a.threads[i]? = some ⟨call, .importing⟩) (hf : a.shared.statics.firstRun = false) :
    (Exporter.lts r F toJSONString n calls).step a (i, ⟨0, .success 0⟩)
      ⟨a.shared, a.threads.set i ⟨call, .adding⟩⟩ := by
  refine Pool.step_iff.2 ⟨_, _, _, ht, ?_, rfl⟩
  simp [Exporter.body, Exporter.Shared.tick, importCompleteBufferIfFirstRun, hf]

theorem atomic_add {c : SampleCollection} (ht : a.threads[i]? = some ⟨call, .adding⟩)
    (hc : r.addToCollection a.shared.statics.sampleCollection call.sample = .ok c) :
    (Exporter.lts r F toJSONString n calls).step a (i, ⟨0, .success 0⟩)
      ⟨ahead a.shared c a.shared.world [call.sample], a.threads.set i ⟨call, .exporting⟩⟩ := by
  refine Pool.step_iff.2 ⟨_, _, _, ht, ?_, rfl⟩
  simp [Exporter.body, Exporter.Shared.tick, hc, ahead]

theorem atomic_notYet {now : Int} (ht : a.threads[i]? = some ⟨call, .exporting⟩) (hnow : a.shared.world.now ≤ now)
    (hnot : areAtLeastSecondsPassedBetween a.shared.statics.lastExport now EXPORT_INTERVAL_SECONDS = false) :
    (Exporter.lts r F toJSONString n calls).step a (i, ⟨(now - a.shared.world.now).toNat, .success 0⟩)
      ⟨{ a.shared with world := { a.shared.world with now := now } }, a.threads.set i ⟨call, .returned⟩⟩ := by
  refine Pool.step_iff.2 ⟨_, _, _, ht, ?_, rfl⟩
  have hclock : a.shared.world.now + max (now - a.shared.world.now) 0 = now := by omega
  simp [Exporter.body, Exporter.Shared.tick, conditionallyCreateExport, enoughTimeHasPassed, exportedBy, hclock, hnot]

theorem atomic_export {since now : Int} (ht : a.threads[i]? = some ⟨call, .exporting⟩)
    (hsince : a.shared.world.now ≤ since) (hnow : since ≤ now)
    (hdue : areAtLeastSecondsPassedBetween a.shared.statics.lastExport since EXPORT_INTERVAL_SECONDS = true) :
    (Exporter.lts r F toJSONString n calls).step a
      (i, ⟨(since - a.shared.world.now).toNat, .success (now - since).toNat⟩)
      ⟨{ a.shared with
          statics := { a.shared.statics with lastExport := now },
          world := ⟨now, some (a.shared.statics.sampleCollection.toJSON F toJSONString)⟩,
          exported := a.shared.exported ++ [a.shared.statics.sampleCollection] },
        a.threads.set i ⟨call, .returned⟩⟩ := by
  refine Pool.step_iff.2 ⟨_, _, _, ht, ?_, rfl⟩
  have hclock : a.shared.world.now + max (since - a.shared.world.now) 0 = since := by omega
  have hend : since + max (now - since) 0 = now := by omega
  simp [Exporter.body, Exporter.Shared.tick, conditionallyCreateExport, exportCollectionWithErrorHandling,
    enoughTimeHasPassed, exportedBy, hclock, hdue, hend]

theorem atomic_failure {since now : Int} (file : Option String) (ht : a.threads[i]? = some ⟨call, .exporting⟩)
    (hsince : a.shared.world.now ≤ since) (hnow : since ≤ now)
    (hdue : areAtLeastSecondsPassedBetween a.shared.statics.lastExport since EXPORT_INTERVAL_SECONDS = true) :
    (Exporter.lts r F toJSONString n calls).step a
      (i, ⟨(since - a.shared.world.now).toNat, .failure (now - since).toNat file⟩)
      ⟨{ a.shared with world := ⟨now, file⟩ }, a.threads.set i ⟨call, .returned⟩⟩ := by
  refine Pool.step_iff.2 ⟨_, _, _, ht, ?_, rfl⟩
  have hclock : a.shared.world.now + max (since - a.shared.world.now) 0 = since := by omega
  have hend : since + max (now - since) 0 = now := by omega
  simp [Exporter.body, Exporter.Shared.tick, conditionallyCreateExport, exportCollectionWithErrorHandling,
    enoughTimeHasPassed, exportedBy, hclock, hdue, hend]

/-- A thread after those of `delayed` have added their samples. -/
def caughtUp (delayed : List (Nat × Sample)) (j : Nat) (t : Exporter.Thread) : Exporter.Thread :=
  if j ∈ delayed.map (·.1) then { t with pc := .exporting } else t

variable (F toJSONString n calls) in
/-- The late samples are added one after the other. -/
theorem catch_up {delayed : List (Nat × Sample)} {a : Pool Exporter.Shared Exporter.Thread} {c : SampleCollection}
    (hat : ∀ p ∈ delayed, ∃ t, a.threads[p.1]? = some t ∧ t.pc = .adding ∧ t.call.sample = p.2)
    (hnodup : (delayed.map (·.1)).Nodup)
    (hc : (delayed.map (·.2)).foldlM r.addToCollection a.shared.statics.sampleCollection = .ok c) :
    ∃ ks a', (Exporter.lts r F toJSONString n calls).Run a ks a' ∧
      a'.shared = ahead a.shared c a.shared.world (delayed.map (·.2)) ∧
      ∀ j : Nat, a'.threads[j]? = a.threads[j]?.map (caughtUp delayed j) := by
  let Left (ps : List (Nat × Sample)) (g : Exporter.Shared) : Prop :=
    (ps.map (·.2)).foldlM r.addToCollection g.statics.sampleCollection = .ok c ∧
      ahead g c g.world (ps.map (·.2)) = ahead a.shared c a.shared.world (delayed.map (·.2))
  have hstep : ∀ p ps (st : Pool Exporter.Shared Exporter.Thread) t, Left (p :: ps) st.shared →
      st.threads[p.1]? = some t → t.pc = .adding ∧ t.call.sample = p.2 →
      ∃ ls g', (Exporter.lts r F toJSONString n calls).Run st ls ⟨g', st.threads.set p.1 { t with pc := .exporting }⟩ ∧
        Left ps g' := by
    intro p ps st t ⟨hfold, hahead⟩ ht ⟨hpc, hsample⟩
    rw [List.map_cons, List.foldlM_cons] at hfold
    cases hadd : r.addToCollection st.shared.statics.sampleCollection p.2 with
    | error f => rw [hadd] at hfold; cases hfold
    | ok c₁ =>
      rw [hadd] at hfold
      have ht' : st.threads[p.1]? = some ⟨t.call, .adding⟩ := by rw [ht, ← hpc]
      refine ⟨_, _, .single (atomic_add ht' (hsample ▸ hadd)), hfold, ?_⟩
      rw [← hahead, hsample, List.map_cons]
      simp [ahead]
  obtain ⟨ks, a', hrun, ⟨hend, hshared⟩, hthreads⟩ := Pool.run_each
    (f := fun _ t => { t with pc := .exporting }) (fun p : Nat × Sample => p.1) hstep hnodup
    (show Left delayed a.shared from ⟨hc, rfl⟩) hat
  refine ⟨ks, a', hrun, ?_, hthreads⟩
  cases hend
  rw [← hshared]
  simp [ahead]

end Atomic

/-! ## The relation -/

/-- The place in the calls of `Exporter`. -/
def PC.atomic : PC → Exporter.PC
  | .entering => .importing
  | .checkingFirstRun => .importing
  | .importing _ => .importing
  | .adding => .adding
  | .returned => .returned
  | _ => .exporting

/-- The samples of `delayed` are late. -/
def atomicThread (delayed : List (Nat × Sample)) (j : Nat) (t : Thread) : Exporter.Thread :=
  ⟨t.call, if j ∈ delayed.map (·.1) then .adding else t.pc.atomic⟩

/-- The call that holds the receiver's monitor, and where it is. -/
def owner (st : Pool Shared Thread) : Option (Call × PC) :=
  (st.shared.receiverMonitor.bind (st.threads[·]?)).map fun t => (t.call, t.pc)

def Quiet (a : Exporter.Shared) (w : World) (delayed : List (Nat × Sample)) (lead : List Sample) : Prop :=
  delayed = [] ∧ lead = [] ∧ w.file = a.world.file

/-- At the time `since` an export was due. -/
def Due (a : Exporter.Shared) (w : World) (since : Int) : Prop :=
  a.world.now ≤ since ∧ since ≤ w.now ∧
    areAtLeastSecondsPassedBetween a.statics.lastExport since EXPORT_INTERVAL_SECONDS = true

section
variable (r : JsonExporterSampleReceiver) (F : SampleDateFormatter)
  (toJSONString : JSONObject (JSONObject (JSONObject (JSONArray (JSONObject Value)))) → String)

/-- What the collection has that the atomic one has not: samples of the buffer
while it is imported, late ones while the file is written. -/
def Phase (a : Exporter.Shared) (w : World) (delayed : List (Nat × Sample)) (lead : List Sample) :
    Option (Call × PC) → Prop
  | some (call, .importing rest) =>
    delayed = [] ∧ lead ++ rest = call.sampleBuffer ∧ w.file = a.world.file
  | some (_, .exporting since) => Quiet a w delayed lead ∧ Due a w since
  | some (_, .writing since shown json) =>
    lead = delayed.map (·.2) ∧ Due a w since ∧ shown = a.statics.sampleCollection ∧
      json = shown.toJSON F toJSONString ∧ w.file = a.world.file
  | some (_, .stamping since shown) =>
    lead = delayed.map (·.2) ∧ Due a w since ∧ shown = a.statics.sampleCollection ∧
      w.file = some (shown.toJSON F toJSONString)
  | _ => Quiet a w delayed lead

structure Matched (st : Pool Shared Thread) (a : Pool Exporter.Shared Exporter.Thread) (c : SampleCollection)
    (w : World) (delayed : List (Nat × Sample)) (lead : List Sample) : Prop where
  state : st.shared.state = ahead a.shared c w (delayed.map (·.2))
  collection : lead.foldlM r.addToCollection a.shared.statics.sampleCollection = .ok c
  now : a.shared.world.now ≤ w.now
  threads : ∀ j : Nat, a.threads[j]? = st.threads[j]?.map (atomicThread delayed j)
  late : ∀ p ∈ delayed, ∃ t, st.threads[p.1]? = some t ∧ t.pc = .awaiting ∧ t.call.sample = p.2
  nodup : (delayed.map (·.1)).Nodup
  phase : Phase F toJSONString a.shared w delayed lead (owner st)

/-- The states of `Exporter` that a state goes with. -/
def Refines (n : Int) (calls : List Call) (st : Pool Shared Thread) (a : Pool Exporter.Shared Exporter.Thread) :
    Prop :=
  Inv r n calls st ∧ ∃ c w delayed lead, Matched r F toJSONString st a c w delayed lead

end

section Owner
variable {st : Pool Shared Thread} {i : Nat} {g' : Shared} {t t' : Thread}

theorem owner_free (h : st.shared.receiverMonitor = none) : owner st = none := by
  rw [owner, h]
  rfl

theorem owner_self (ht : st.threads[i]? = some t) (h : g'.receiverMonitor = some i) :
    owner ⟨g', st.threads.set i t'⟩ = some (t'.call, t'.pc) := by
  rw [owner]
  dsimp only
  rw [h, Option.bind_some, List.getElem?_set_self (List.getElem?_eq_some_iff.1 ht).1, Option.map_some]

theorem owner_same (ht : st.threads[i]? = some t) (hcall : t'.call = t.call) (hpc : t'.pc = t.pc)
    (h : g'.receiverMonitor = st.shared.receiverMonitor) : owner ⟨g', st.threads.set i t'⟩ = owner st := by
  unfold owner
  dsimp only
  rw [h]
  cases st.shared.receiverMonitor with
  | none => rfl
  | some j =>
    rw [Option.bind_some, Option.bind_some, ← List.getElem?_map, ← List.getElem?_map,
      map_set_of_eq (fun t : Thread => (t.call, t.pc)) ht t' (by rw [hcall, hpc])]

theorem Inv.owner_eq (hinv : Inv r n calls st) (ht : st.threads[i]? = some t) (hin : t.pc.holds = true) :
    st.shared.receiverMonitor = some i ∧ owner st = some (t.call, t.pc) := by
  have hm := (hinv.receiver.inside_iff i t ht).1 hin
  refine ⟨hm, ?_⟩
  rw [owner, hm, Option.bind_some, ht, Option.map_some]

theorem Inv.owner_other (hinv : Inv r n calls st) (ht : st.threads[i]? = some t) (t' : Thread)
    (hout : t.pc.holds = false)
    (h : g'.receiverMonitor = st.shared.receiverMonitor) : owner ⟨g', st.threads.set i t'⟩ = owner st := by
  unfold owner
  dsimp only
  rw [h]
  cases hm : st.shared.receiverMonitor with
  | none => rfl
  | some j =>
    have hne : i ≠ j := by
      rintro rfl
      cases hout.symm.trans ((hinv.receiver.inside_iff i t ht).2 hm)
    rw [Option.bind_some, Option.bind_some, List.getElem?_set_ne hne]

theorem mem_of_owner {call : Call} {pc : PC} (h : owner st = some (call, pc)) : ∃ t ∈ st.threads, t.pc = pc := by
  obtain ⟨t, ht, heq⟩ := Option.map_eq_some_iff.1 h
  obtain ⟨j, -, hj⟩ := Option.bind_eq_some_iff.1 ht
  exact ⟨t, List.mem_of_getElem? hj, (Prod.mk.inj heq).2⟩

end Owner

theorem lead_concat {c₀ c c' : SampleCollection} {lead : List Sample} {s : Sample}
    (h : lead.foldlM r.addToCollection c₀ = .ok c) (hadd : r.addToCollection c s = .ok c') :
    (lead ++ [s]).foldlM r.addToCollection c₀ = .ok c' := by
  rw [List.foldlM_append, h]
  show (r.addToCollection c s >>= fun c => pure c) = .ok c'
  rw [hadd]
  rfl

section Follow
variable {st : Pool Shared Thread} {a a' : Pool Exporter.Shared Exporter.Thread} {c c' : SampleCollection}
  {w w' : World} {delayed : List (Nat × Sample)} {lead lead' : List Sample} {i : Nat} {g' : Shared} {t t' : Thread}

/-- A thread whose sample is late waits for the receiver. -/
theorem Matched.not_late (h : Matched r F toJSONString st a c w delayed lead) (ht : st.threads[i]? = some t)
    (hpc : t.pc ≠ .awaiting) : i ∉ delayed.map (·.1) := by
  intro hmem
  obtain ⟨p, hp, rfl⟩ := List.mem_map.1 hmem
  obtain ⟨u, hu, hwaits, -⟩ := h.late p hp
  rw [ht, Option.some.injEq] at hu
  exact hpc (hu ▸ hwaits)

theorem Matched.thread (h : Matched r F toJSONString st a c w delayed lead) (ht : st.threads[i]? = some t)
    (hpc : t.pc ≠ .awaiting ∨ delayed = []) : a.threads[i]? = some ⟨t.call, t.pc.atomic⟩ := by
  have hnot : i ∉ delayed.map (·.1) := by
    rcases hpc with hpc | rfl
    · exact h.not_late ht hpc
    · exact List.not_mem_nil
  rw [h.threads, ht, Option.map_some, atomicThread, if_neg hnot]

/-- A step that does nothing in the atomic calls. -/
theorem Matched.stutter (h : Matched r F toJSONString st a c w delayed lead) (ht : st.threads[i]? = some t)
    (hcall : t'.call = t.call) (hpc : t'.pc.atomic = t.pc.atomic)
    (hlate : delayed = [] ∨ t.pc ≠ .awaiting ∨ t'.pc = t.pc)
    (hstate : g'.state = ahead a.shared c' w' (delayed.map (·.2)))
    (hc : lead'.foldlM r.addToCollection a.shared.statics.sampleCollection = .ok c') (hnow : w.now ≤ w'.now)
    (hphase : Phase F toJSONString a.shared w' delayed lead' (owner ⟨g', st.threads.set i t'⟩)) :
    Matched r F toJSONString ⟨g', st.threads.set i t'⟩ a c' w' delayed lead' := by
  refine ⟨hstate, hc, h.now.trans hnow, fun j => ?_, fun p hp => ?_, h.nodup, hphase⟩
  · rw [h.threads]
    dsimp only
    by_cases hj : i = j
    · subst hj
      rw [ht, List.getElem?_set_self (List.getElem?_eq_some_iff.1 ht).1, Option.map_some, Option.map_some,
        atomicThread, atomicThread, hcall, hpc]
    · rw [List.getElem?_set_ne hj]
  · obtain ⟨u, hu, hwaits, hsample⟩ := h.late p hp
    dsimp only
    by_cases hj : i = p.1
    · subst hj
      rw [ht, Option.some.injEq] at hu
      subst hu
      refine ⟨t', List.getElem?_set_self (List.getElem?_eq_some_iff.1 ht).1, ?_, hcall ▸ hsample⟩
      rcases hlate with rfl | hnot | hsame
      · cases hp
      · exact absurd hwaits hnot
      · exact hsame.trans hwaits
    · rw [List.getElem?_set_ne hj]
      exact ⟨u, hu, hwaits, hsample⟩

/-- A step after which nothing is late and nothing is ahead. -/
theorem matched_of_level (hstate : g'.state = { a'.shared with world := w' }) (hnow : a'.shared.world.now ≤ w'.now)
    (hthreads : ∀ j : Nat, a'.threads[j]? = (st.threads.set i t')[j]?.map (atomicThread [] j))
    (hphase : Phase F toJSONString a'.shared w' [] [] (owner ⟨g', st.threads.set i t'⟩)) :
    Matched r F toJSONString ⟨g', st.threads.set i t'⟩ a' a'.shared.statics.sampleCollection w' [] [] := by
  refine ⟨?_, rfl, hnow, hthreads, nofun, List.nodup_nil, hphase⟩
  rw [hstate, ahead, List.map_nil, List.append_nil]

/-- The thread moves in the atomic calls too. -/
theorem Matched.threads_set (h : Matched r F toJSONString st a c w [] lead) (ht : st.threads[i]? = some t)
    (t' : Thread) (j : Nat) : (a.threads.set i ⟨t'.call, t'.pc.atomic⟩)[j]? =
      (st.threads.set i t')[j]?.map (atomicThread [] j) := by
  have hat := h.thread ht (.inr rfl)
  by_cases hj : i = j
  · subst hj
    rw [List.getElem?_set_self (List.getElem?_eq_some_iff.1 ht).1,
      List.getElem?_set_self (List.getElem?_eq_some_iff.1 hat).1]
    rfl
  · rw [List.getElem?_set_ne hj, List.getElem?_set_ne hj, h.threads]

/-- A sample that is added while the file is written. -/
theorem Matched.add_late (h : Matched r F toJSONString st a c w delayed lead) (ht : st.threads[i]? = some t)
    (hpc : t.pc = .adding) (hpc' : t'.pc = .awaiting) (hcall : t'.call = t.call)
    (hadd : r.addToCollection c t.call.sample = .ok c')
    (hstate : g'.state = ahead a.shared c' w (delayed.map (·.2) ++ [t.call.sample]))
    (hphase : Phase F toJSONString a.shared w (delayed ++ [(i, t.call.sample)]) (lead ++ [t.call.sample])
      (owner ⟨g', st.threads.set i t'⟩)) :
    Matched r F toJSONString ⟨g', st.threads.set i t'⟩ a c' w (delayed ++ [(i, t.call.sample)])
      (lead ++ [t.call.sample]) := by
  have hnot := h.not_late ht (by rw [hpc]; exact PC.noConfusion)
  have hlt := (List.getElem?_eq_some_iff.1 ht).1
  refine ⟨by rw [List.map_append]; exact hstate, lead_concat h.collection hadd, h.now, fun j => ?_, fun p hp => ?_, ?_,
    hphase⟩
  · dsimp only
    by_cases hj : i = j
    · subst hj
      rw [h.thread ht (.inl (by rw [hpc]; exact PC.noConfusion)), List.getElem?_set_self hlt, Option.map_some,
        atomicThread, if_pos (by simp), hpc, hcall]
      rfl
    · have hmem : j ∈ (delayed ++ [(i, t.call.sample)]).map (·.1) ↔ j ∈ delayed.map (·.1) := by
        simp [Ne.symm hj]
      rw [h.threads, List.getElem?_set_ne hj]
      unfold atomicThread
      simp only [hmem]
  · dsimp only
    rcases List.mem_append.1 hp with hp | hp
    · obtain ⟨u, hu, hwaits⟩ := h.late p hp
      have hne : i ≠ p.1 := fun heq => hnot (heq ▸ List.mem_map_of_mem hp)
      rw [List.getElem?_set_ne hne]
      exact ⟨u, hu, hwaits⟩
    · cases List.mem_singleton.1 hp
      exact ⟨t', List.getElem?_set_self hlt, hpc', by rw [hcall]⟩
  · rw [List.map_append, List.nodup_append]
    refine ⟨h.nodup, List.nodup_singleton _, fun x hx y hy => ?_⟩
    rw [List.map_singleton, List.mem_singleton] at hy
    rintro rfl
    rw [hy] at hx
    exact hnot hx

/-- The thread has done its export; then the late samples are added. -/
theorem Matched.finish (h : Matched r F toJSONString st a c w delayed lead) (ht : st.threads[i]? = some t)
    (hpc : t.pc ≠ .awaiting) (hlead : lead = delayed.map (·.2)) {s : Exporter.Shared} {env : Exporter.Env}
    (hstep : (Exporter.lts r F toJSONString n calls).step a (i, env) ⟨s, a.threads.set i ⟨t.call, .returned⟩⟩)
    (hs : s.statics.sampleCollection = a.shared.statics.sampleCollection) :
    ∃ ks a', (Exporter.lts r F toJSONString n calls).Run a ks a' ∧
      a'.shared = ahead s c s.world (delayed.map (·.2)) ∧
      ∀ j : Nat, a'.threads[j]? = (st.threads.set i { t with pc := .returned })[j]?.map (atomicThread [] j) := by
  have hnot := h.not_late ht hpc
  have hat := h.thread ht (.inl hpc)
  have hlate : ∀ p ∈ delayed, ∃ u, (a.threads.set i ⟨t.call, .returned⟩)[p.1]? = some u ∧ u.pc = .adding ∧
      u.call.sample = p.2 := by
    intro p hp
    obtain ⟨u, hu, -, hsample⟩ := h.late p hp
    have hmem : p.1 ∈ delayed.map (·.1) := List.mem_map_of_mem hp
    have hne : i ≠ p.1 := fun heq => hnot (heq ▸ hmem)
    rw [List.getElem?_set_ne hne, h.threads, hu]
    exact ⟨_, rfl, if_pos hmem, hsample⟩
  obtain ⟨ks, a', hrun, hshared, hthreads⟩ := catch_up F toJSONString n calls
    (a := ⟨s, a.threads.set i ⟨t.call, .returned⟩⟩) hlate h.nodup (by rw [hs, ← hlead]; exact h.collection)
  refine ⟨_ :: ks, a', .cons hstep hrun, hshared, fun j => ?_⟩
  rw [hthreads]
  dsimp only
  by_cases hj : i = j
  · subst hj
    rw [List.getElem?_set_self (List.getElem?_eq_some_iff.1 hat).1,
      List.getElem?_set_self (List.getElem?_eq_some_iff.1 ht).1, Option.map_some, Option.map_some, caughtUp,
      if_neg hnot]
    rfl
  · rw [List.getElem?_set_ne hj, List.getElem?_set_ne hj, h.threads, Option.map_map]
    cases hu : st.threads[j]? with
    | none => rfl
    | some u =>
      rw [Option.map_some, Option.map_some, Option.some.injEq]
      dsimp only [Function.comp]
      unfold caughtUp atomicThread
      split
      · rename_i hmem
        obtain ⟨p, hp, rfl⟩ := List.mem_map.1 hmem
        obtain ⟨u', hu', hwaits, -⟩ := h.late p hp
        rw [hu, Option.some.injEq] at hu'
        subst hu'
        rw [hwaits]
        rfl
      · rfl

end Follow

/-- A sample that is added while another thread holds the receiver, or none:
it is added now, or it is late. -/
theorem phase_add {a : Exporter.Shared} {w : World} {delayed : List (Nat × Sample)} {lead : List Sample}
    {o : Option (Call × PC)} (h : Phase F toJSONString a w delayed lead o)
    (hnot : ∀ call rest, o ≠ some (call, .importing rest)) :
    (delayed = [] ∧ lead = [] ∧ ∀ c s, Phase F toJSONString (ahead a c a.world s) w [] [] o) ∨
    (lead = delayed.map (·.2) ∧ ∀ p : Nat × Sample,
      Phase F toJSONString a w (delayed ++ [p]) (lead ++ [p.2]) o) := by
  have quiet : Quiet a w delayed lead → (∀ c s, Quiet (ahead a c a.world s) w [] [] →
      Phase F toJSONString (ahead a c a.world s) w [] [] o) →
      delayed = [] ∧ lead = [] ∧ ∀ c s, Phase F toJSONString (ahead a c a.world s) w [] [] o :=
    fun ⟨hdelayed, hlead, hfile⟩ hphase => ⟨hdelayed, hlead, fun c s => hphase c s ⟨rfl, rfl, hfile⟩⟩
  match o, h with
  | none, h => exact .inl (quiet h fun _ _ => id)
  | some (_, .entering), h => exact .inl (quiet h fun _ _ => id)
  | some (_, .checkingFirstRun), h => exact .inl (quiet h fun _ _ => id)
  | some (call, .importing rest), _ => exact absurd rfl (hnot call rest)
  | some (_, .adding), h => exact .inl (quiet h fun _ _ => id)
  | some (_, .awaiting), h => exact .inl (quiet h fun _ _ => id)
  | some (_, .checkingTime), h => exact .inl (quiet h fun _ _ => id)
  | some (_, .exporting _), h => exact .inl (quiet h.1 fun _ _ hq => ⟨hq, h.2⟩)
  | some (_, .writing _ _ _), ⟨hlead, hrest⟩ =>
    exact .inr ⟨hlead, fun p => ⟨by rw [hlead, List.map_append]; rfl, hrest⟩⟩
  | some (_, .stamping _ _), ⟨hlead, hrest⟩ =>
    exact .inr ⟨hlead, fun p => ⟨by rw [hlead, List.map_append]; rfl, hrest⟩⟩
  | some (_, .returned), h => exact .inl (quiet h fun _ _ => id)

/-- Every step is followed by a run of the atomic calls. -/
theorem Matched.step {st : Pool Shared Thread} {a : Pool Exporter.Shared Exporter.Thread} {c : SampleCollection}
    {w : World} {delayed : List (Nat × Sample)} {lead : List Sample} {i : Nat} {g' : Shared} {t t' : Thread}
    (hinv : Inv r n calls st) (h : Matched r F toJSONString st a c w delayed lead)
    (ht : st.threads[i]? = some t) (hs : CallStep r F toJSONString i st.shared t g' t') :
    ∃ ks a', (Exporter.lts r F toJSONString n calls).Run a ks a' ∧
      ∃ c' w' delayed' lead', Matched r F toJSONString ⟨g', st.threads.set i t'⟩ a' c' w' delayed' lead' := by
  have hstate := h.state
  have hphase := h.phase
  have hmem := List.mem_of_getElem? ht
  cases hs with
  | enter hpc hfree =>
    rw [owner_free hfree] at hphase
    obtain ⟨rfl, rfl, hfile⟩ := hphase
    refine ⟨[], a, .nil a, c, w, [], [], h.stutter ht rfl (by rw [hpc]; rfl) (.inl rfl) hstate h.collection le_rfl ?_⟩
    rw [owner_self ht rfl]
    exact ⟨rfl, rfl, hfile⟩
  | firstRun hpc hfirst =>
    obtain ⟨hm, howner⟩ := hinv.owner_eq ht (by rw [hpc]; rfl)
    rw [howner, hpc] at hphase
    obtain ⟨rfl, rfl, hfile⟩ := hphase
    refine ⟨[], a, .nil a, c, w, [], [], h.stutter ht rfl (by rw [hpc]; rfl) (.inl rfl) hstate h.collection le_rfl ?_⟩
    rw [owner_self ht hm]
    exact ⟨rfl, rfl, hfile⟩
  | laterRun hpc hfirst =>
    obtain ⟨hm, howner⟩ := hinv.owner_eq ht (by rw [hpc]; rfl)
    rw [howner, hpc] at hphase
    obtain ⟨rfl, rfl, hfile⟩ := hphase
    cases h.collection
    have hat := h.thread ht (.inr rfl)
    rw [hpc] at hat
    rw [hstate] at hfirst
    refine ⟨_, _, .single (atomic_later hat hfirst), _, w, [], [],
      matched_of_level (hstate.trans (by simp [ahead])) h.now (fun j => h.threads_set ht { t with pc := .adding } j) ?_⟩
    rw [owner_free rfl]
    exact ⟨rfl, rfl, hfile⟩
  | enterCollection hcalls hout hfree =>
    refine ⟨[], a, .nil a, c, w, delayed, lead, h.stutter ht rfl rfl (.inr (.inr rfl)) hstate h.collection le_rfl ?_⟩
    have hsame : owner ⟨{ st.shared with collectionMonitor := some i }, st.threads.set i { t with entered := true }⟩ =
        owner st := owner_same ht rfl rfl rfl
    rw [hsame]
    exact hphase
  | importOne s rest c₁ hpc hin hadd =>
    obtain ⟨hm, howner⟩ := hinv.owner_eq ht (by rw [hpc]; rfl)
    rw [howner, hpc] at hphase
    obtain ⟨rfl, hbuffer, hfile⟩ := hphase
    rw [hstate] at hadd
    refine ⟨[], a, .nil a, c₁, w, [], lead ++ [s], h.stutter ht rfl (by rw [hpc]; rfl) (.inl rfl) ?_
      (lead_concat h.collection hadd) le_rfl ?_⟩
    · rw [Shared.back_state]
      simp [Shared.withCollection, Shared.withState, hstate, ahead]
    · have hm' : ((st.shared.withCollection c₁).back t).receiverMonitor = some i :=
        (Shared.back_receiverMonitor _ _).trans hm
      rw [owner_self ht hm']
      exact ⟨rfl, by rw [List.append_assoc]; exact hbuffer, hfile⟩
  | imported hpc =>
    obtain ⟨hm, howner⟩ := hinv.owner_eq ht (by rw [hpc]; rfl)
    rw [howner, hpc] at hphase
    obtain ⟨rfl, hbuffer, hfile⟩ := hphase
    rw [List.append_nil] at hbuffer
    have hat := h.thread ht (.inr rfl)
    rw [hpc] at hat
    have hfirst := hinv.importing t hmem [] hpc
    rw [hstate] at hfirst
    refine ⟨_, _, .single (atomic_import hat hfirst (hbuffer ▸ h.collection)), _, w, [], [],
      matched_of_level ?_ h.now (fun j => h.threads_set ht { t with pc := .adding } j) ?_⟩
    · simp [Shared.leaveReceiver, Shared.withState, hstate, ahead]
    · rw [owner_free rfl]
      exact ⟨rfl, rfl, hfile⟩
  | add c₁ hpc hin hadd =>
    rw [hstate] at hadd
    have hm : ((((st.shared.withCollection c₁).withAdded t.call.sample).back t)).receiverMonitor =
        st.shared.receiverMonitor := Shared.back_receiverMonitor _ _
    have hstate' : ((((st.shared.withCollection c₁).withAdded t.call.sample).back t)).state =
        ahead a.shared c₁ w (delayed.map (·.2) ++ [t.call.sample]) := by
      simp [Shared.withAdded, Shared.withCollection, Shared.withState, hstate, ahead]
    have howner := hinv.owner_other ht { t with pc := .awaiting, entered := false } (by rw [hpc]; rfl) hm
    -- while a buffer is imported, no thread has come so far
    have hnot : ∀ call rest, owner st ≠ some (call, .importing rest) := by
      intro call rest howns
      obtain ⟨u, hu, hupc⟩ := mem_of_owner howns
      have hearly := hinv.first (hinv.importing u hu rest hupc) t hmem
      rw [hpc] at hearly
      cases hearly
    rcases phase_add hphase hnot with ⟨rfl, rfl, hquiet⟩ | ⟨hlead, hlate⟩
    · cases h.collection
      have hat := h.thread ht (.inr rfl)
      rw [hpc] at hat
      refine ⟨_, _, .single (atomic_add hat hadd), _, w, [], [],
        matched_of_level hstate' h.now (fun j => h.threads_set ht { t with pc := .awaiting, entered := false } j) ?_⟩
      rw [howner]
      exact hquiet c₁ _
    · refine ⟨[], a, .nil a, c₁, w, _, _, h.add_late ht hpc rfl rfl hadd hstate' ?_⟩
      rw [howner]
      exact hlate (i, t.call.sample)
  | await hpc hfree =>
    rw [owner_free hfree] at hphase
    obtain ⟨rfl, rfl, hfile⟩ := hphase
    refine ⟨[], a, .nil a, c, w, [], [], h.stutter ht rfl (by rw [hpc]; rfl) (.inl rfl) hstate h.collection le_rfl ?_⟩
    rw [owner_self ht rfl]
    exact ⟨rfl, rfl, hfile⟩
  | notYet hpc htime =>
    obtain ⟨hm, howner⟩ := hinv.owner_eq ht (by rw [hpc]; rfl)
    rw [howner, hpc] at hphase
    obtain ⟨rfl, rfl, hfile⟩ := hphase
    cases h.collection
    have hat := h.thread ht (.inr rfl)
    rw [hpc] at hat
    rw [hstate] at htime
    refine ⟨_, _, .single (atomic_notYet hat h.now htime), _, w, [], [],
      matched_of_level ?_ le_rfl (fun j => h.threads_set ht { t with pc := .returned } j) ?_⟩
    · simp [Shared.leaveReceiver, hstate, ahead]
    · rw [owner_free rfl]
      exact ⟨rfl, rfl, hfile⟩
  | due hpc htime =>
    obtain ⟨hm, howner⟩ := hinv.owner_eq ht (by rw [hpc]; rfl)
    rw [howner, hpc] at hphase
    obtain ⟨rfl, rfl, hfile⟩ := hphase
    refine ⟨[], a, .nil a, c, w, [], [], h.stutter ht rfl (by rw [hpc]; rfl) (.inl rfl) hstate h.collection le_rfl ?_⟩
    rw [owner_self ht hm]
    rw [hstate] at htime ⊢
    exact ⟨⟨rfl, rfl, hfile⟩, h.now, le_rfl, htime⟩
  | print since hpc hin =>
    obtain ⟨hm, howner⟩ := hinv.owner_eq ht (by rw [hpc]; rfl)
    rw [howner, hpc] at hphase
    obtain ⟨⟨rfl, rfl, hfile⟩, hdue⟩ := hphase
    cases h.collection
    refine ⟨[], a, .nil a, _, w, [], [], h.stutter ht rfl (by rw [hpc]; rfl) (.inl rfl) hstate rfl le_rfl ?_⟩
    rw [owner_self ht (by exact hm), hstate]
    exact ⟨rfl, hdue, rfl, rfl, hfile⟩
  | written since shown json hpc =>
    obtain ⟨hm, howner⟩ := hinv.owner_eq ht (by rw [hpc]; rfl)
    rw [howner, hpc] at hphase
    obtain ⟨hlead, hdue, hshown, rfl, hfile⟩ := hphase
    have hlate : t.pc ≠ .awaiting := by rw [hpc]; exact PC.noConfusion
    refine ⟨[], a, .nil a, c, { w with file := some (shown.toJSON F toJSONString) }, delayed, lead,
      h.stutter ht rfl (by rw [hpc]; rfl) (.inr (.inl hlate)) ?_ h.collection le_rfl ?_⟩
    · simp [Shared.withState, hstate, ahead]
    · rw [owner_self ht (by exact hm)]
      exact ⟨hlead, hdue, hshown, rfl⟩
  | notWritten since shown json file hpc =>
    obtain ⟨hm, howner⟩ := hinv.owner_eq ht (by rw [hpc]; rfl)
    rw [howner, hpc] at hphase
    obtain ⟨hlead, ⟨hsince, hnow, hdue⟩, hshown, rfl, hfile⟩ := hphase
    have hlate : t.pc ≠ .awaiting := by rw [hpc]; exact PC.noConfusion
    have hat := h.thread ht (.inl hlate)
    rw [hpc] at hat
    obtain ⟨ks, a', hrun, hshared, hthreads⟩ := h.finish ht hlate hlead
      (atomic_failure file hat hsince hnow hdue) rfl
    refine ⟨ks, a', hrun, _, { w with file := file }, [], [], matched_of_level ?_ ?_ hthreads ?_⟩
    · rw [hshared]
      simp [Shared.leaveReceiver, Shared.withState, hstate, ahead]
    · rw [hshared]
      exact le_rfl
    · rw [owner_free rfl, hshared]
      exact ⟨rfl, rfl, rfl⟩
  | stamp since shown hpc =>
    obtain ⟨hm, howner⟩ := hinv.owner_eq ht (by rw [hpc]; rfl)
    rw [howner, hpc] at hphase
    obtain ⟨hlead, ⟨hsince, hnow, hdue⟩, rfl, hfile⟩ := hphase
    have hlate : t.pc ≠ .awaiting := by rw [hpc]; exact PC.noConfusion
    have hat := h.thread ht (.inl hlate)
    rw [hpc] at hat
    obtain ⟨ks, a', hrun, hshared, hthreads⟩ := h.finish ht hlate hlead
      (atomic_export hat hsince hnow hdue) rfl
    refine ⟨ks, a', hrun, _, w, [], [], matched_of_level ?_ ?_ hthreads ?_⟩
    · rw [hshared]
      simp [Shared.leaveReceiver, Shared.withState, hstate, ahead]
    · rw [hshared]
      exact le_rfl
    · rw [owner_free rfl, hshared]
      exact ⟨rfl, rfl, hfile⟩

/-! ## The simulation -/

theorem Inv.tick {st : Pool Shared Thread} (h : Inv r n calls st) (elapsed : Nat) :
    Inv r n calls ⟨st.shared.tick elapsed, st.threads⟩ :=
  ⟨h.threads, h.receiver, h.collection, h.atCall, h.first, h.importing, h.limit⟩

theorem phase_tick {a : Exporter.Shared} {w : World} {delayed : List (Nat × Sample)} {lead : List Sample}
    {o : Option (Call × PC)} (h : Phase F toJSONString a w delayed lead o) (elapsed : Nat) :
    Phase F toJSONString a { w with now := w.now + elapsed } delayed lead o := by
  have due : ∀ since, Due a w since → Due a { w with now := w.now + elapsed } since := by
    intro since ⟨hsince, hnow, hdue⟩
    refine ⟨hsince, ?_, hdue⟩
    dsimp only
    omega
  match o, h with
  | none, h => exact h
  | some (_, .entering), h => exact h
  | some (_, .checkingFirstRun), h => exact h
  | some (_, .importing _), h => exact h
  | some (_, .adding), h => exact h
  | some (_, .awaiting), h => exact h
  | some (_, .checkingTime), h => exact h
  | some (_, .exporting since), h => exact ⟨h.1, due since h.2⟩
  | some (_, .writing since _ _), ⟨hlead, hdue, hrest⟩ => exact ⟨hlead, due since hdue, hrest⟩
  | some (_, .stamping since _), ⟨hlead, hdue, hrest⟩ => exact ⟨hlead, due since hdue, hrest⟩
  | some (_, .returned), h => exact h

theorem Matched.tick {st : Pool Shared Thread} {a : Pool Exporter.Shared Exporter.Thread} {c : SampleCollection}
    {w : World} {delayed : List (Nat × Sample)} {lead : List Sample}
    (h : Matched r F toJSONString st a c w delayed lead) (elapsed : Nat) :
    Matched r F toJSONString ⟨st.shared.tick elapsed, st.threads⟩ a c { w with now := w.now + elapsed } delayed
      lead := by
  refine ⟨?_, h.collection, ?_, h.threads, h.late, h.nodup, phase_tick h.phase elapsed⟩
  · simp [Shared.tick, Exporter.Shared.tick, h.state, ahead]
  · have hnow := h.now
    dsimp only
    omega

theorem refines_start {st : Pool Shared Thread} (h : init n calls st) :
    ∃ a, Exporter.init n calls a ∧ Refines r F toJSONString n calls st a := by
  have hinv : Inv r n calls st := inv_start h
  obtain ⟨ht, hreceiver, -, hfirst, hnew, himported, hadded, hexported⟩ := h
  refine ⟨⟨st.shared.state, calls.map (⟨·, .importing⟩)⟩,
    ⟨rfl, hfirst, hnew, himported, hadded, hexported⟩, hinv, _, st.shared.state.world, [], [], ?_, rfl, le_rfl,
    fun j => ?_, nofun, List.nodup_nil, ?_⟩
  · simp [ahead]
  · rw [ht, List.getElem?_map, List.getElem?_map, Option.map_map]
    rfl
  · rw [owner_free hreceiver]
    exact ⟨rfl, rfl, rfl⟩

/-- Whatever the monitors let happen, the atomic calls can do. -/
theorem simulates : LTS.Simulates (lts r F toJSONString n calls) (Exporter.lts r F toJSONString n calls)
    (Refines r F toJSONString n calls) where
  init _ h := refines_start h
  step := by
    intro st l st' a ⟨hinv, c, w, delayed, lead, h⟩ hs
    obtain ⟨t, g', t', ht, hb, rfl⟩ := Pool.step_iff.1 hs
    have hcall := body_cases hb (hinv.atCall t (List.mem_of_getElem? ht))
    obtain ⟨ks, a', hrun, c', w', delayed', lead', h'⟩ := (h.tick l.2.elapsed).step (hinv.tick _) ht hcall
    exact ⟨ks, a', hrun, inv_step hinv ht hcall, c', w', delayed', lead', h'⟩

/-- The two states after all calls. -/
structure SameEnd (st : Pool Shared Thread) (a : Pool Exporter.Shared Exporter.Thread) : Prop where
  returned : Exporter.AllReturned a
  statics : st.shared.state.statics = a.shared.statics
  file : st.shared.state.world.file = a.shared.world.file
  added : st.shared.state.added = a.shared.added

theorem Matched.same_end {st : Pool Shared Thread} {a : Pool Exporter.Shared Exporter.Thread} {c : SampleCollection}
    {w : World} {delayed : List (Nat × Sample)} {lead : List Sample} (hinv : Inv r n calls st)
    (h : Matched r F toJSONString st a c w delayed lead) (hreturned : AllReturned st) : SameEnd st a := by
  have hfree : st.shared.receiverMonitor = none := by
    by_contra hne
    obtain ⟨i, hi⟩ := Option.ne_none_iff_exists'.1 hne
    obtain ⟨t, ht⟩ := hinv.receiver.owner i hi
    have hin := (hinv.receiver.inside_iff i t ht).2 hi
    rw [hreturned t (List.mem_of_getElem? ht)] at hin
    cases hin
  have hphase := h.phase
  rw [owner_free hfree] at hphase
  obtain ⟨rfl, rfl, hfile⟩ := hphase
  cases h.collection
  refine ⟨fun u hu => ?_, by rw [h.state]; rfl, by rw [h.state]; exact hfile, by rw [h.state]; simp [ahead]⟩
  obtain ⟨j, hj⟩ := List.getElem?_of_mem hu
  rw [h.threads] at hj
  obtain ⟨t, ht, rfl⟩ := Option.map_eq_some_iff.1 hj
  simp [atomicThread, hreturned t (List.mem_of_getElem? ht), PC.atomic]

/-- **The calls are atomic.** In whatever way the two monitors let the steps
of any calls interleave, calls of three atomic steps reach a state with the
same imported buffer and the same exported collections; after all calls it
has the same collection, file and time of the last export too. So the calls
leave what one sequential run leaves. -/
theorem calls_atomic {st : Pool Shared Thread} (h : (lts r F toJSONString n calls).Reachable st) :
    ∃ a, (Exporter.lts r F toJSONString n calls).Reachable a ∧ Sequential r F n calls a ∧
      st.shared.state.imported = a.shared.imported ∧ st.shared.state.exported = a.shared.exported ∧
      (AllReturned st → SameEnd st a) := by
  obtain ⟨a, ha, hinv, c, w, delayed, lead, hmatched⟩ := simulates.reachable h
  refine ⟨a, ha, (Exporter.inv_inductive.reachable a ha).sequential F, ?_, ?_, hmatched.same_end hinv⟩
  · rw [hmatched.state]
    rfl
  · rw [hmatched.state]
    rfl

theorem addedWhileWriting_atomic : ∃ st a,
    (lts everything ⟨fun _ => "", fun _ => ""⟩ (fun _ => "{}") 5 twoCalls).Run startedThreads addedWhileWriting st ∧
    (Exporter.lts everything ⟨fun _ => "", fun _ => ""⟩ (fun _ => "{}") 5 twoCalls).Reachable a ∧ SameEnd st a ∧
    a.shared.exported.length = 1 ∧ a.shared.added = twoCalls.map (·.sample) := by
  obtain ⟨st, hrun, hreturned, hadded, hlength⟩ := addedWhileWriting_run
  obtain ⟨a, ha, -, -, hexported, hsame⟩ :=
    calls_atomic ⟨startedThreads, _, ⟨rfl, rfl, rfl, rfl, rfl, rfl, rfl, rfl⟩, hrun⟩
  have hend := hsame hreturned
  exact ⟨st, a, hrun, ha, hend, hexported ▸ hlength, hend.added ▸ hadded⟩

end SensorSamplor.Monitors
