import SensorSamplor.L5Concurrency.Exporter

/-!
# When the JSON exporter writes

The calls of `Exporter`, with the clock in view. A thread that comes to its
export reads the clock, and when ten seconds have passed since `lastExport`
it attempts a write. The write takes its time and then succeeds, which sets
`lastExport` to the time it is done, or fails, which sets nothing.

`exports_throttled`, for every interleaving: no successful export starts
within ten seconds of the initial `lastExport` or of the end of one before
it (`lastExport` never goes back, `step_lastExport`); after a failed export
every export step is an attempt until one succeeds (`step_due`); and what a
successful export writes already has the sample of its own call.

The clock never goes back: a step takes a natural number of milliseconds.
-/
namespace SensorSamplor.Exporter

open SensorSamplor.Core JsonExporterSampleReceiver

variable (r : JsonExporterSampleReceiver) (F : SampleDateFormatter)
  (toJSONString : JSONObject (JSONObject (JSONObject (JSONArray (JSONObject Value)))) → String)

/-- The thread of a step has come to its export. -/
def AtExport (a : Pool Shared Thread) (l : Nat × Env) : Prop :=
  ∃ t, a.threads[l.1]? = some t ∧ t.pc = .exporting

/-- The time at which a step reads the clock. -/
def startOf (a : Pool Shared Thread) (l : Nat × Env) : Int := a.shared.world.now + l.2.elapsed

/-- The step finds that enough time has passed, and writes. -/
def Attempts (a : Pool Shared Thread) (l : Nat × Env) : Prop :=
  AtExport a l ∧ enoughTimeHasPassed a.shared.statics (a.shared.tick l.2.elapsed).world = true

def Succeeds (a : Pool Shared Thread) (l : Nat × Env) : Prop :=
  Attempts a l ∧ ∃ millis, l.2.write = .success millis

def Fails (a : Pool Shared Thread) (l : Nat × Env) : Prop :=
  Attempts a l ∧ ∃ millis file, l.2.write = .failure millis file

/-- A successful export starts ten seconds after this time, or later. -/
def Apart (time : Int) (a : Pool Shared Thread) (l : Nat × Env) : Prop :=
  time + 1000 * EXPORT_INTERVAL_SECONDS ≤ startOf a l

variable {r F toJSONString} {n : Int} {calls : List Call}

/-! ## One step -/

/-- What a step does that exports successfully. -/
structure Exported (F : SampleDateFormatter)
    (toJSONString : JSONObject (JSONObject (JSONObject (JSONArray (JSONObject Value)))) → String)
    (a : Pool Shared Thread) (l : Nat × Env) (b : Pool Shared Thread) : Prop where
  apart : Apart a.shared.statics.lastExport a l
  lastExport : b.shared.statics.lastExport = b.shared.world.now
  collection : b.shared.statics.sampleCollection = a.shared.statics.sampleCollection
  file : b.shared.world.file = some (a.shared.statics.sampleCollection.toJSON F toJSONString)

/-- A step that is no successful export leaves `lastExport` alone, and all
other statics too when it fails. -/
structure NotExported (a : Pool Shared Thread) (l : Nat × Env) (b : Pool Shared Thread) : Prop where
  lastExport : b.shared.statics.lastExport = a.shared.statics.lastExport
  statics : Fails a l → b.shared.statics = a.shared.statics

theorem attempts_iff {a : Pool Shared Thread} {l : Nat × Env} :
    Attempts a l ↔ AtExport a l ∧ Apart a.shared.statics.lastExport a l := by
  unfold Attempts enoughTimeHasPassed areAtLeastSecondsPassedBetween
  rw [decide_eq_true_eq]
  rfl

theorem not_attempts {a : Pool Shared Thread} {l : Nat × Env} {t : Thread} (ht : a.threads[l.1]? = some t)
    (hpc : t.pc ≠ .exporting) : ¬ Attempts a l := by
  rintro ⟨⟨t', ht', hpc'⟩, -⟩
  rw [ht, Option.some.injEq] at ht'
  exact hpc (ht' ▸ hpc')

theorem body_exporting {i : Nat} {g g' : Shared} {t t' : Thread} {env : Env}
    (h : body r F toJSONString i g t env = some (g', t')) (hpc : t.pc = .exporting) :
    (g'.statics, g'.world) =
      conditionallyCreateExport F toJSONString g.statics (g.tick env.elapsed).world env.write := by
  unfold body at h
  simp only [hpc, Option.some.injEq, Prod.mk.injEq] at h
  rw [← h.1]
  rfl

theorem body_not_exporting {i : Nat} {g g' : Shared} {t t' : Thread} {env : Env}
    (h : body r F toJSONString i g t env = some (g', t')) (hpc : t.pc ≠ .exporting) :
    g'.statics.lastExport = g.statics.lastExport ∧ g'.world = (g.tick env.elapsed).world := by
  rcases body_cases h with ⟨-, -, -, c, -, rfl⟩ | ⟨-, -, -, rfl⟩ | ⟨-, -, c, -, rfl⟩ | ⟨hexporting, -⟩
  · exact ⟨rfl, rfl⟩
  · exact ⟨rfl, rfl⟩
  · exact ⟨rfl, rfl⟩
  · exact absurd hexporting hpc

/-- **One step.** It takes the clock on, and exports or leaves `lastExport` alone. -/
theorem step_times {a b : Pool Shared Thread} {l : Nat × Env} (h : (lts r F toJSONString n calls).step a l b) :
    startOf a l ≤ b.shared.world.now ∧
      ((Succeeds a l ∧ Exported F toJSONString a l b) ∨ (¬ Succeeds a l ∧ NotExported a l b)) := by
  obtain ⟨t, g', t', ht, hb, rfl⟩ := Pool.step_iff.1 h
  by_cases hpc : t.pc = .exporting
  · have hexport := body_exporting hb hpc
    rcases conditionallyCreateExport_cases F toJSONString a.shared.statics (a.shared.tick l.2.elapsed).world
      l.2.write with ⟨hnot, heq⟩ | ⟨henough, millis, hwrite, heq⟩ | ⟨henough, millis, file, hwrite, heq⟩
    · -- not yet time
      obtain ⟨hstatics, hworld⟩ := Prod.mk.inj (hexport.trans heq)
      have hidle : ¬ Attempts a l := fun hattempts => by simp [hattempts.2] at hnot
      refine ⟨?_, .inr ⟨fun hsucceeds => hidle hsucceeds.1, by rw [hstatics], fun hfails => hstatics⟩⟩
      rw [hworld]
      exact le_rfl
    · obtain ⟨hstatics, hworld⟩ := Prod.mk.inj (hexport.trans heq)
      have hattempts : Attempts a l := ⟨⟨t, ht, hpc⟩, henough⟩
      refine ⟨?_, .inl ⟨⟨hattempts, millis, hwrite⟩, (attempts_iff.1 hattempts).2, ?_, ?_, ?_⟩⟩
      · rw [hworld]
        exact Int.le_add_of_nonneg_right (Int.natCast_nonneg millis)
      · rw [hstatics, hworld]
      · rw [hstatics]
      · rw [hworld]
    · obtain ⟨hstatics, hworld⟩ := Prod.mk.inj (hexport.trans heq)
      refine ⟨?_, .inr ⟨fun ⟨_, millis', hsuccess⟩ => ?_, by rw [hstatics], fun hfails => hstatics⟩⟩
      · rw [hworld]
        exact Int.le_add_of_nonneg_right (Int.natCast_nonneg millis)
      · rw [hwrite] at hsuccess
        cases hsuccess
  · obtain ⟨hlast, hworld⟩ := body_not_exporting hb hpc
    have hidle := not_attempts ht hpc
    refine ⟨?_, .inr ⟨fun hsucceeds => hidle hsucceeds.1, hlast, fun hfails => absurd hfails.1 hidle⟩⟩
    rw [hworld]
    exact le_rfl

/-! ## Runs -/

/-- A time that `lastExport` has reached stays behind it. -/
theorem step_lastExport {time : Int} {a b : Pool Shared Thread} {l : Nat × Env}
    (hreached : time ≤ a.shared.statics.lastExport) (h : (lts r F toJSONString n calls).step a l b) :
    time ≤ b.shared.statics.lastExport := by
  obtain ⟨hclock, ⟨-, hexported⟩ | ⟨-, hnot⟩⟩ := step_times h
  · have hapart := hexported.apart
    have hlast := hexported.lastExport
    unfold Apart EXPORT_INTERVAL_SECONDS at hapart
    omega
  · rw [hnot.lastExport]
    exact hreached

/-- An export stays due until one succeeds. -/
theorem step_due {a b : Pool Shared Thread} {l : Nat × Env}
    (hdue : a.shared.statics.lastExport + 1000 * EXPORT_INTERVAL_SECONDS ≤ a.shared.world.now)
    (h : ((lts r F toJSONString n calls).restrict fun a l => ¬ Succeeds a l).step a l b) :
    b.shared.statics.lastExport + 1000 * EXPORT_INTERVAL_SECONDS ≤ b.shared.world.now := by
  obtain ⟨hstep, hfailed⟩ := h
  obtain ⟨hclock, ⟨hsucceeds, -⟩ | ⟨-, hnot⟩⟩ := step_times hstep
  · exact absurd hsucceeds hfailed
  · rw [hnot.lastExport]
    unfold startOf at hclock
    omega

theorem mem_sum_contribution {ts : List Thread} {t : Thread} (ht : t ∈ ts) {s : Sample}
    (hs : s ∈ t.contribution) : s ∈ (ts.map Thread.contribution).sum := by
  induction ts with
  | nil => cases ht
  | cons u ts ih =>
    rw [List.map_cons, List.sum_cons, Multiset.mem_add]
    rcases List.mem_cons.1 ht with rfl | ht
    · exact .inl hs
    · exact .inr (ih ht)

/-- What a thread has added is in the collection when it comes to its export. -/
theorem Inv.shows_own {a : Pool Shared Thread} (h : Inv r n calls a) {i : Nat} {t : Thread}
    (ht : a.threads[i]? = some t) (hpc : t.pc = .exporting) : t.call.sample ∈ a.shared.added ∧
      ∃ call ∈ calls, Shows r n (call.sampleBuffer ++ a.shared.added) a.shared.statics.sampleCollection := by
  have hown : t.call.sample ∈ t.contribution := by
    rw [Thread.contribution_sample (.inl hpc)]
    exact Multiset.mem_singleton_self _
  have hmem : t.call.sample ∈ a.shared.added := by
    rw [← Multiset.mem_coe, h.added]
    exact mem_sum_contribution (List.mem_of_getElem? ht) hown
  obtain ⟨-, j, call, hcall, -, hshows⟩ := h.later ht (by rw [hpc]; exact PC.noConfusion)
  exact ⟨hmem, call, List.mem_of_getElem? hcall, hshows⟩

/-! ## Throttling -/

/-- What holds of the exports of every run of `M` from `st₀`. `a` and `b` are
the states before and after the step `l`, `c` and `d` those of a later step. -/
structure Throttled (F : SampleDateFormatter)
    (toJSONString : JSONObject (JSONObject (JSONObject (JSONArray (JSONObject Value)))) → String)
    (r : JsonExporterSampleReceiver) (n : Int) (calls : List Call) (M : LTS (Pool Shared Thread) (Nat × Env))
    (st₀ : Pool Shared Thread) : Prop where
  /-- ten seconds from the initial `lastExport` to the start of a successful export -/
  initial : ∀ ls a l b, M.Run st₀ ls a → M.step a l b → Succeeds a l → Apart st₀.shared.statics.lastExport a l
  /-- ten seconds from the end of a successful export to the start of a later one -/
  spaced : ∀ ls a l b ls' c l' d, M.Run st₀ ls a → M.step a l b → Succeeds a l → M.Run b ls' c →
    M.step c l' d → Succeeds c l' → Apart b.shared.world.now c l'
  /-- a failed export changes neither `lastExport` nor the collection -/
  failed : ∀ ls a l b, M.Run st₀ ls a → M.step a l b → Fails a l → b.shared.statics = a.shared.statics
  /-- and every export step after it is an attempt, until one succeeds -/
  retried : ∀ ls a l b ls' c l', M.Run st₀ ls a → M.step a l b → Fails a l →
    (M.restrict fun a l => ¬ Succeeds a l).Run b ls' c → AtExport c l' → Attempts c l'
  /-- a successful export writes the collection, in which one call's buffer and the
  samples added so far have gone, the sample of its own call among them -/
  written : ∀ ls a l b, M.Run st₀ ls a → M.step a l b → Succeeds a l →
    b.shared.world.file = some (a.shared.statics.sampleCollection.toJSON F toJSONString) ∧
    b.shared.statics.sampleCollection = a.shared.statics.sampleCollection ∧
    ∃ t, a.threads[l.1]? = some t ∧ t.call.sample ∈ a.shared.added ∧
      ∃ call ∈ calls, Shows r n (call.sampleBuffer ++ a.shared.added) a.shared.statics.sampleCollection

theorem Succeeds.exported {a b : Pool Shared Thread} {l : Nat × Env} (hs : Succeeds a l)
    (h : (lts r F toJSONString n calls).step a l b) : Exported F toJSONString a l b := by
  obtain ⟨-, ⟨-, hexported⟩ | ⟨hnot, -⟩⟩ := step_times h
  · exact hexported
  · exact absurd hs hnot

theorem Fails.not_exported {a b : Pool Shared Thread} {l : Nat × Env} (hf : Fails a l)
    (h : (lts r F toJSONString n calls).step a l b) : NotExported a l b := by
  obtain ⟨-, ⟨⟨-, millis, hsuccess⟩, -⟩ | ⟨-, hnot⟩⟩ := step_times h
  · obtain ⟨-, millis', file, hfailure⟩ := hf
    rw [hsuccess] at hfailure
    cases hfailure
  · exact hnot

/-- No successful export within ten seconds of a time that `lastExport` has reached. -/
theorem apart_of_run {time : Int} {b c d : Pool Shared Thread} {ls : List (Nat × Env)} {l : Nat × Env}
    (hreached : time ≤ b.shared.statics.lastExport) (hrun : (lts r F toJSONString n calls).Run b ls c)
    (hstep : (lts r F toJSONString n calls).step c l d) (hs : Succeeds c l) : Apart time c l := by
  have hlast := hrun.keeps (I := fun st => time ≤ st.shared.statics.lastExport)
    (fun _ _ _ hreached hstep => step_lastExport hreached hstep) hreached
  have hapart := (hs.exported hstep).apart
  unfold Apart at hapart ⊢
  omega

/-- **Throttling.** Any calls, any order of their steps, any times and any
failing writes. -/
theorem exports_throttled {st₀ : Pool Shared Thread} (h₀ : init n calls st₀) :
    Throttled F toJSONString r n calls (lts r F toJSONString n calls) st₀ := by
  have reachable : ∀ {ls a}, (lts r F toJSONString n calls).Run st₀ ls a → Inv r n calls a :=
    fun hrun => inv_inductive.reachable _ ⟨st₀, _, h₀, hrun⟩
  refine ⟨?_, ?_, ?_, ?_, ?_⟩
  · intro ls a l b hrun hstep hs
    exact apart_of_run le_rfl hrun hstep hs
  · intro ls a l b ls' c l' d _ hstep hs hrun hstep' hs'
    exact apart_of_run (hs.exported hstep).lastExport.ge hrun hstep' hs'
  · intro ls a l b _ hstep hf
    exact (hf.not_exported hstep).statics hf
  · intro ls a l b ls' c l' _ hstep hf hrun hexport
    have hdue : b.shared.statics.lastExport + 1000 * EXPORT_INTERVAL_SECONDS ≤ b.shared.world.now := by
      have hapart := (attempts_iff.1 hf.1).2
      have hclock := (step_times hstep).1
      rw [(hf.not_exported hstep).lastExport]
      exact le_trans hapart hclock
    have hstill := hrun.keeps (fun _ _ _ hdue hstep => step_due hdue hstep) hdue
    refine attempts_iff.2 ⟨hexport, hstill.trans ?_⟩
    exact Int.le_add_of_nonneg_right (Int.natCast_nonneg _)
  · intro ls a l b hrun hstep hs
    obtain ⟨⟨⟨t, ht, hpc⟩, -⟩, -⟩ := id hs
    have hexported := hs.exported hstep
    exact ⟨hexported.file, hexported.collection, t, ht, (reachable hrun).shows_own ht hpc⟩

/-! ## Two calls, the first with a failing export -/

def printObject {ν : Type} (print : ν → String) (o : JSONObject ν) : String :=
  "\x7b" ++ ",".intercalate (o.entries.map fun e => "\"" ++ e.1 ++ "\":" ++ print e.2) ++ "\x7d"

def printArray {ν : Type} (print : ν → String) (array : JSONArray ν) : String :=
  "[" ++ ",".intercalate (array.map print) ++ "]"

def printValue : Value → String
  | .string s => "\"" ++ s ++ "\""
  | .long n => toString n
  | _ => "null"

/-- The JSON text of an export of whole numbers and of texts without
anything to escape. -/
def printExport : JSONObject (JSONObject (JSONObject (JSONArray (JSONObject Value)))) → String :=
  printObject (printObject (printObject (printArray (printObject printValue))))

/-- The time stamps of the first ten milliseconds of 1970 in UTC. -/
def epochFormatter : SampleDateFormatter :=
  ⟨fun _ => "1970-01-01:00:00:00 +0000", fun t => "1970-01-01T00:00:00.00" ++ toString t.millis ++ "+0000"⟩

def deliveries : LTS (Pool Shared Thread) (Nat × Env) := lts everything epochFormatter printExport 5 twoCalls

/-- The export of the first call fails, and the second call comes to its export. -/
def failedOnce : List (Nat × Env) :=
  [(0, ⟨0, .success 1⟩), (0, ⟨0, .success 1⟩), (0, ⟨20000, .failure 5 none⟩), (1, ⟨0, .success 1⟩),
   (1, ⟨0, .success 1⟩)]

def due : Pool Shared Thread :=
  (LTS.exec (Pool.step (body everything epochFormatter printExport)) started failedOnce).getD started

/-- One entry of the buffer and one of each call. -/
def exportedText : String :=
  "\x7b\"node\":\x7b\"load\":\x7b\"a\":[" ++
    "\x7b\"value\":1,\"timestamp\":\"1970-01-01T00:00:00.000+0000\"\x7d," ++
    "\x7b\"value\":2,\"timestamp\":\"1970-01-01T00:00:00.001+0000\"\x7d," ++
    "\x7b\"value\":3,\"timestamp\":\"1970-01-01T00:00:00.002+0000\"\x7d]\x7d\x7d\x7d"

theorem failedOnce_throttled : ∃ b t, deliveries.Run started failedOnce due ∧
    deliveries.step due (1, ⟨0, .success 3⟩) b ∧ Apart 0 due (1, ⟨0, .success 3⟩) ∧
    b.shared.world.file = some exportedText ∧ due.threads[1]? = some t ∧ t.call.sample ∈ due.shared.added ∧
    ∃ call ∈ twoCalls,
      Shows everything 5 (call.sampleBuffer ++ due.shared.added) due.shared.statics.sampleCollection := by
  have throttled : Throttled epochFormatter printExport everything 5 twoCalls deliveries started :=
    exports_throttled ⟨rfl, rfl, rfl, rfl, rfl, rfl⟩
  have run : deliveries.Run started failedOnce due := LTS.run_of_exec rfl
  have succeeds : Succeeds due (1, ⟨0, .success 3⟩) := ⟨⟨⟨_, rfl, rfl⟩, by decide⟩, 3, rfl⟩
  obtain ⟨b, step⟩ : ∃ b, deliveries.step due (1, ⟨0, .success 3⟩) b := ⟨_, rfl⟩
  obtain ⟨file, -, t, ht, hadded, hshows⟩ := throttled.written _ _ _ _ run step succeeds
  have text : due.shared.statics.sampleCollection.toJSON epochFormatter printExport = exportedText := by
    decide +kernel
  exact ⟨b, t, run, step, throttled.initial _ _ _ _ run step succeeds, file.trans (congrArg some text), ht,
    hadded, hshows⟩

end SensorSamplor.Exporter
