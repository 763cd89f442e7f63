import SensorSamplor.L5Concurrency.LogFiles

/-!
# Which lines the log files lose

What any calls of the log file receiver leave without I/O errors, also those
that share a file that does not exist yet. `lost_lines`: a file only ever gets lines at its
end, those of the calls that return, each once. Which calls give up is up to
the interleaving, but only calls that share a new file can, and never all of
them; any choice within these bounds is the outcome of some interleaving.
-/
namespace SensorSamplor.LogFiles

open SensorSamplor.Core FileSampleReceiver

variable {env : FileEnvironment} {F : SampleDateFormatter} {toJSONString : JSONObject Value → String}
  {r : FileSampleReceiver} {fs₀ : FileSystem} {calls : List Call}

/-! ## The lines in a file -/

/-- What a thread has appended, in the calls' order of threads. -/
def Thread.appended (t : Thread) : List Call := if t.pc = .returned then [t.call] else []

/-- The calls that have returned. -/
def returnedCalls (st : Pool FileSystem Thread) : List Call := st.threads.flatMap Thread.appended

/-- The thread has its file open, or had. -/
def PC.opened : PC → Bool
  | .appending => true
  | .returned => true
  | _ => false

/-- What holds of a thread for its place. -/
structure Placed (env : FileEnvironment) (r : FileSampleReceiver) (fs₀ fs : FileSystem) (t : Thread) : Prop where
  creating : t.pc = .creating → t.call.file env r ∉ fs₀
  opened : t.pc.opened = true → t.call.file env r ∈ fs
  threw : ∀ e, t.pc = .threw e →
    e = notCreated env (t.call.file env r) ∧ t.call.file env r ∉ fs₀ ∧ t.call.file env r ∈ fs

structure Account (env : FileEnvironment) (F : SampleDateFormatter) (toJSONString : JSONObject Value → String)
    (r : FileSampleReceiver) (fs₀ : FileSystem) (calls : List Call) (st : Pool FileSystem Thread) : Prop where
  threads : st.threads.map (·.call) = calls
  kept : ∀ file ∈ fs₀, file ∈ st.shared
  placed : ∀ t ∈ st.threads, Placed env r fs₀ st.shared t
  created : ∀ file ∈ st.shared, file ∈ fs₀ ∨ ∃ t ∈ st.threads, t.call.file env r = file ∧ t.pc.opened = true
  lines : ∀ file, ∃ lines, content st.shared file = content fs₀ file ++ lines ∧
    lines.Perm (linesFor env F toJSONString r (returnedCalls st) file)

theorem Placed.mono {fs fs' : FileSystem} {t : Thread} (h : Placed env r fs₀ fs t) (hsub : ∀ file ∈ fs, file ∈ fs') :
    Placed env r fs₀ fs' t :=
  ⟨h.creating, fun ho => hsub _ (h.opened ho), fun e he =>
    ⟨(h.threw e he).1, (h.threw e he).2.1, hsub _ (h.threw e he).2.2⟩⟩

theorem linesFor_perm {as bs : List Call} (h : as.Perm bs) (file : String) :
    (linesFor env F toJSONString r as file).Perm (linesFor env F toJSONString r bs file) :=
  (h.filter _).map _

theorem linesFor_append (as bs : List Call) (file : String) :
    linesFor env F toJSONString r (as ++ bs) file =
      linesFor env F toJSONString r as file ++ linesFor env F toJSONString r bs file := by
  rw [linesFor, linesFor, linesFor, List.filter_append, List.map_append]

theorem account_start : Account env F toJSONString r fs₀ calls (start fs₀ calls) := by
  have hpc : ∀ t ∈ (start fs₀ calls).threads, t.pc = .checking := by
    intro t ht
    obtain ⟨call, -, rfl⟩ := List.mem_map.1 ht
    rfl
  refine ⟨?_, fun _ h => h, fun t ht => ⟨fun hc => ?_, fun ho => ?_, fun e he => ?_⟩, fun _ h => .inl h,
    fun file => ⟨[], ?_, ?_⟩⟩
  · simp only [start, List.map_map]
    exact List.map_id' calls
  · rw [hpc t ht] at hc
    cases hc
  · rw [hpc t ht] at ho
    cases ho
  · rw [hpc t ht] at he
    cases he
  · rw [List.append_nil]
    rfl
  · have hnone : returnedCalls (start fs₀ calls) = [] := by
      refine List.flatMap_eq_nil_iff.2 fun t ht => ?_
      rw [Thread.appended, hpc t ht]
      rfl
    rw [hnone]
    exact .refl []

/-- The threads of a file that are past its creation stay so. -/
theorem Account.created_set {st : Pool FileSystem Thread} (h : Account env F toJSONString r fs₀ calls st) {i : Nat}
    {t : Thread} (ht : st.threads[i]? = some t) (t' : Thread) (hcall : t'.call = t.call)
    (hopened : t.pc.opened = true → t'.pc.opened = true) {file : String} (hf : file ∈ st.shared) :
    file ∈ fs₀ ∨ ∃ u ∈ st.threads.set i t', u.call.file env r = file ∧ u.pc.opened = true := by
  have hlt := (List.getElem?_eq_some_iff.1 ht).1
  rcases h.created file hf with hold | ⟨u, hu, hfile, ho⟩
  · exact .inl hold
  · obtain ⟨j, hj⟩ := List.getElem?_of_mem hu
    by_cases hij : i = j
    · subst hij
      rw [ht, Option.some.injEq] at hj
      subst hj
      exact .inr ⟨t', List.mem_set hlt t', by rw [← hfile, Call.file, Call.file, hcall], hopened ho⟩
    · rw [← List.getElem?_set_ne (a := t') hij] at hj
      exact .inr ⟨u, List.mem_of_getElem? hj, hfile, ho⟩

/-- A step in which its thread appends nothing. -/
theorem Account.quiet {st : Pool FileSystem Thread} (h : Account env F toJSONString r fs₀ calls st) {i : Nat}
    {t t' : Thread} {fs' : FileSystem} (ht : st.threads[i]? = some t) (hcall : t'.call = t.call)
    (happended : t.pc ≠ .returned ∧ t'.pc ≠ .returned) (hopened : t.pc.opened = true → t'.pc.opened = true)
    (hsub : ∀ file ∈ st.shared, file ∈ fs')
    (hcreated : ∀ file ∈ fs', file ∈ st.shared ∨ t.call.file env r = file ∧ t'.pc.opened = true)
    (hcontent : ∀ file, content fs' file = content st.shared file) (hplaced : Placed env r fs₀ fs' t') :
    Account env F toJSONString r fs₀ calls ⟨fs', st.threads.set i t'⟩ := by
  have hlt := (List.getElem?_eq_some_iff.1 ht).1
  refine ⟨?_, fun file hf => hsub file (h.kept file hf), fun u hu => ?_, fun file hf => ?_, fun file => ?_⟩
  · rw [← h.threads]
    exact map_set_of_eq _ ht t' hcall
  · rcases List.mem_or_eq_of_mem_set hu with hu | rfl
    · exact (h.placed u hu).mono hsub
    · exact hplaced
  · rcases hcreated file hf with hf | ⟨heq, ho⟩
    · exact h.created_set ht t' hcall hopened hf
    · exact .inr ⟨t', List.mem_set hlt t', by rw [← heq, Call.file, Call.file, hcall], ho⟩
  · obtain ⟨lines, hlines, hperm⟩ := h.lines file
    refine ⟨lines, (hcontent file).trans hlines, hperm.trans (linesFor_perm ?_ file)⟩
    have hnothing : t'.appended = t.appended ++ [] := by simp [Thread.appended, happended]
    have hsame := flatMap_set_append Thread.appended ht hnothing
    rwa [List.append_nil] at hsame

theorem account_step {st : Pool FileSystem Thread} {i : Nat} {a : Unit} {t t' : Thread} {fs' : FileSystem}
    (h : Account env F toJSONString r fs₀ calls st) (ht : st.threads[i]? = some t)
    (hb : body env F toJSONString r i st.shared t a = some (fs', t')) :
    Account env F toJSONString r fs₀ calls ⟨fs', st.threads.set i t'⟩ := by
  have hplaced := h.placed t (List.mem_of_getElem? ht)
  rcases body_cases hb with ⟨hpc, hm, rfl, rfl⟩ | ⟨hpc, hm, rfl, rfl⟩ | ⟨hpc, hm, rfl, rfl⟩ |
    ⟨hpc, hm, rfl, rfl⟩ | ⟨hpc, rfl, rfl⟩
  · exact h.quiet ht rfl (by simp [hpc]) (by simp [hpc, PC.opened]) (fun _ => id) (fun _ => .inl) (fun _ => rfl)
      ⟨nofun, fun _ => hm, nofun⟩
  · exact h.quiet ht rfl (by simp [hpc]) (by simp [hpc, PC.opened]) (fun _ => id) (fun _ => .inl) (fun _ => rfl)
      ⟨fun _ hold => hm (h.kept _ hold), nofun, nofun⟩
  · -- the file is created
    refine h.quiet ht rfl (by simp [hpc]) (by simp [hpc, PC.opened]) (fun _ hf => (AList.mem_insert _).2 (.inr hf))
      (fun file hf => ?_) (content_insert_nil hm) ⟨nofun, fun _ => (AList.mem_insert _).2 (.inl rfl), nofun⟩
    rcases (AList.mem_insert _).1 hf with rfl | hf
    · exact .inr ⟨rfl, rfl⟩
    · exact .inl hf
  · -- the file was created in between
    refine h.quiet ht rfl (by simp [hpc]) (by simp [hpc, PC.opened]) (fun _ => id) (fun _ => .inl) (fun _ => rfl)
      ⟨nofun, nofun, fun e he => ?_⟩
    cases he
    exact ⟨rfl, hplaced.creating hpc, hm⟩
  · -- the line is appended
    have hsub : ∀ file ∈ st.shared, file ∈ append st.shared (t.call.file env r) (t.call.line env F toJSONString) :=
      fun _ hf => mem_append.2 (.inr hf)
    have hcall := (List.getElem?_eq_some_iff.1 ht).1
    refine ⟨?_, fun file hf => hsub file (h.kept file hf), fun u hu => ?_, fun file hf => ?_, fun file => ?_⟩
    · rw [← h.threads]
      exact map_set_of_eq _ ht { t with pc := .returned } rfl
    · rcases List.mem_or_eq_of_mem_set hu with hu | rfl
      · exact (h.placed u hu).mono hsub
      · exact ⟨nofun, fun _ => mem_append.2 (.inl rfl), nofun⟩
    · rcases mem_append.1 hf with rfl | hf
      · exact .inr ⟨{ t with pc := .returned }, List.mem_set hcall _, rfl, rfl⟩
      · exact h.created_set ht { t with pc := .returned } rfl (fun _ => rfl) hf
    · obtain ⟨lines, hlines, hperm⟩ := h.lines file
      have hadds : Thread.appended { t with pc := .returned } = t.appended ++ [t.call] := by
        simp [Thread.appended, hpc]
      have hreturned : (linesFor env F toJSONString r (returnedCalls st ++ [t.call]) file).Perm
          (linesFor env F toJSONString r (returnedCalls ⟨append st.shared (t.call.file env r)
            (t.call.line env F toJSONString), st.threads.set i { t with pc := .returned }⟩) file) :=
        linesFor_perm (flatMap_set_append Thread.appended ht hadds) file
      rw [linesFor_append] at hreturned
      dsimp only
      by_cases hf : t.call.file env r = file
      · have hline : linesFor env F toJSONString r [t.call] file = [t.call.line env F toJSONString] := by
          simp [linesFor, hf]
        rw [hline] at hreturned
        refine ⟨lines ++ [t.call.line env F toJSONString], ?_, (hperm.append_right _).trans hreturned⟩
        rw [hf, content_append_self, hlines, List.append_assoc]
      · have hline : linesFor env F toJSONString r [t.call] file = [] := by simp [linesFor, hf]
        rw [hline, List.append_nil] at hreturned
        exact ⟨lines, by rw [content_append_ne _ (Ne.symm hf), hlines], hperm.trans hreturned⟩

theorem account_inductive :
    (lts env F toJSONString r fs₀ calls).Inductive (Account env F toJSONString r fs₀ calls) :=
  Pool.inductive_of_body (fun _ h => h ▸ account_start) fun _ _ _ _ _ _ => account_step

/-! ## The outcomes -/

/-- The calls of `returns` have returned, the others have given up. -/
def EndsWith (env : FileEnvironment) (r : FileSampleReceiver) (returns : Nat → Bool) (st : Pool FileSystem Thread) :
    Prop :=
  ∀ (i : Nat) (t : Thread), st.threads[i]? = some t →
    t.pc = if returns i then .returned else .threw (notCreated env (t.call.file env r))

/-- A call returns when its file exists, and one call of each file does. -/
structure Possible (env : FileEnvironment) (r : FileSampleReceiver) (fs : FileSystem) (calls : List Call)
    (returns : Nat → Bool) : Prop where
  old : ∀ (i : Nat) (call : Call), calls[i]? = some call → call.file env r ∈ fs → returns i = true
  new : ∀ (i : Nat) (call : Call), calls[i]? = some call →
    ∃ (j : Nat) (other : Call), calls[j]? = some other ∧ other.file env r = call.file env r ∧ returns j = true

theorem Account.thread {st : Pool FileSystem Thread} (h : Account env F toJSONString r fs₀ calls st) {i : Nat}
    {call : Call} (hi : calls[i]? = some call) : ∃ t, st.threads[i]? = some t ∧ t.call = call := by
  rw [← h.threads, List.getElem?_map] at hi
  exact Option.map_eq_some_iff.1 hi

theorem Account.possible {st : Pool FileSystem Thread} (h : Account env F toJSONString r fs₀ calls st)
    {returns : Nat → Bool} (hends : EndsWith env r returns st) : Possible env r fs₀ calls returns := by
  have threw : ∀ (i : Nat) (t : Thread), st.threads[i]? = some t → returns i ≠ true →
      t.call.file env r ∉ fs₀ ∧ t.call.file env r ∈ st.shared := by
    intro i t ht hnot
    have hpc := hends i t ht
    rw [if_neg hnot] at hpc
    exact ((h.placed t (List.mem_of_getElem? ht)).threw _ hpc).2
  refine ⟨fun i call hi hold => ?_, fun i call hi => ?_⟩
  · obtain ⟨t, ht, rfl⟩ := h.thread hi
    by_contra hnot
    exact (threw i t ht hnot).1 hold
  · obtain ⟨t, ht, rfl⟩ := h.thread hi
    by_cases hreturns : returns i = true
    · exact ⟨i, t.call, hi, rfl, hreturns⟩
    · obtain ⟨hnew, hthere⟩ := threw i t ht hreturns
      rcases h.created _ hthere with hold | ⟨u, hu, hfile, ho⟩
      · exact absurd hold hnew
      · obtain ⟨j, hj⟩ := List.getElem?_of_mem hu
        refine ⟨j, u.call, by rw [← h.threads, List.getElem?_map, hj, Option.map_some], hfile, ?_⟩
        by_contra hnot
        have hpc := hends j u hj
        rw [if_neg hnot] at hpc
        rw [hpc] at ho
        cases ho

def PC.Ended (pc : PC) : Prop := pc = .returned ∨ ∃ e, pc = .threw e

theorem moves_once {st : Pool FileSystem Thread} {i : Nat} {t t' : Thread} {fs' : FileSystem}
    (ht : st.threads[i]? = some t) (hb : body env F toJSONString r i st.shared t () = some (fs', t')) :
    (lts env F toJSONString r fs₀ calls).Run st [(i, ())] ⟨fs', st.threads.set i t'⟩ :=
  .single (Pool.step_iff.2 ⟨t, fs', t', ht, hb, rfl⟩)

/-- A thread that runs alone returns. -/
theorem returns_alone {st : Pool FileSystem Thread} {i : Nat} {call : Call}
    (ht : st.threads[i]? = some ⟨call, .checking⟩) : ∃ ls fs', (lts env F toJSONString r fs₀ calls).Run st ls
      ⟨fs', st.threads.set i ⟨call, .returned⟩⟩ := by
  have hat : ∀ t', (st.threads.set i t')[i]? = some t' := fun t' =>
    List.getElem?_set_self (List.getElem?_eq_some_iff.1 ht).1
  have appends : ∀ fs', (lts env F toJSONString r fs₀ calls).Run ⟨fs', st.threads.set i ⟨call, .appending⟩⟩ [(i, ())]
      ⟨append fs' (call.file env r) (call.line env F toJSONString), st.threads.set i ⟨call, .returned⟩⟩ := by
    intro fs'
    have hrun : (lts env F toJSONString r fs₀ calls).Run ⟨fs', st.threads.set i ⟨call, .appending⟩⟩ [(i, ())]
        ⟨append fs' (call.file env r) (call.line env F toJSONString),
          (st.threads.set i ⟨call, .appending⟩).set i ⟨call, .returned⟩⟩ := moves_once (hat _) rfl
    rwa [List.set_set] at hrun
  by_cases hm : call.file env r ∈ st.shared
  · have checks : (lts env F toJSONString r fs₀ calls).Run st [(i, ())]
        ⟨st.shared, st.threads.set i ⟨call, .appending⟩⟩ := moves_once ht (by simp [body, hm])
    exact ⟨_, _, checks.append (appends _)⟩
  · have checks : (lts env F toJSONString r fs₀ calls).Run st [(i, ())]
        ⟨st.shared, st.threads.set i ⟨call, .creating⟩⟩ := moves_once ht (by simp [body, hm])
    have creates : (lts env F toJSONString r fs₀ calls).Run ⟨st.shared, st.threads.set i ⟨call, .creating⟩⟩ [(i, ())]
        ⟨st.shared.insert (call.file env r) [], (st.threads.set i ⟨call, .creating⟩).set i ⟨call, .appending⟩⟩ :=
      moves_once (hat _) (by simp [body, createNewFile, hm])
    rw [List.set_set] at creates
    exact ⟨_, _, (checks.append creates).append (appends _)⟩

/-- Each call is at its place `pc`. -/
def At (calls : List Call) (pc : Nat → Call → PC) (st : Pool FileSystem Thread) : Prop :=
  ∀ i : Nat, st.threads[i]? = calls[i]?.map fun call => ⟨call, pc i call⟩

/-- The threads of `p` move from `pc` to `pc'`, one after the other. -/
theorem moves_each (p : Nat → Bool) {pc pc' : Nat → Call → PC} {I : FileSystem → Prop}
    (hmoves : ∀ (i : Nat) (call : Call) (st : Pool FileSystem Thread), p i = true → calls[i]? = some call →
      I st.shared → st.threads[i]? = some ⟨call, pc i call⟩ →
      ∃ ls fs', (lts env F toJSONString r fs₀ calls).Run st ls ⟨fs', st.threads.set i ⟨call, pc' i call⟩⟩ ∧ I fs')
    (hrest : ∀ i call, p i = false → pc' i call = pc i call) {st : Pool FileSystem Thread} (hI : I st.shared)
    (hat : At calls pc st) :
    ∃ ls st', (lts env F toJSONString r fs₀ calls).Run st ls st' ∧ I st'.shared ∧ At calls pc' st' := by
  have hstep : ∀ (k : Nat) (_ : List Nat) (st : Pool FileSystem Thread) (t : Thread), I st.shared →
      st.threads[k]? = some t → p k = true ∧ calls[k]? = some t.call ∧ t.pc = pc k t.call →
      ∃ ls fs', (lts env F toJSONString r fs₀ calls).Run st ls
        ⟨fs', st.threads.set k { t with pc := pc' k t.call }⟩ ∧ I fs' := by
    intro k _ st t hI ht ⟨hp, hcall, hpc⟩
    exact hmoves k t.call st hp hcall hI (by rw [ht, ← hpc])
  have hnodup : (((List.range calls.length).filter p).map id).Nodup := by
    rw [List.map_id]
    exact List.nodup_range.filter _
  have hfrom : ∀ k ∈ (List.range calls.length).filter p, ∃ t, st.threads[id k]? = some t ∧
      p k = true ∧ calls[k]? = some t.call ∧ t.pc = pc k t.call := by
    intro k hk
    obtain ⟨hlt, hp⟩ := List.mem_filter.1 hk
    obtain ⟨call, hcall⟩ : ∃ call, calls[k]? = some call :=
      ⟨_, List.getElem?_eq_getElem (List.mem_range.1 hlt)⟩
    exact ⟨⟨call, pc k call⟩, by rw [hat, id, hcall, Option.map_some], hp, hcall, rfl⟩
  obtain ⟨ls, st', hrun, hI', hthreads⟩ := Pool.run_each (I := fun _ => I)
    (P := fun k t => p k = true ∧ calls[k]? = some t.call ∧ t.pc = pc k t.call)
    (f := fun k t => { t with pc := pc' k t.call }) id hstep hnodup hI hfrom
  refine ⟨ls, st', hrun, hI', fun i => ?_⟩
  rw [hthreads, hat, List.map_id]
  cases hi : calls[i]? with
  | none => rfl
  | some call =>
    have hmem : i ∈ (List.range calls.length).filter p ↔ p i = true := by
      simp [(List.getElem?_eq_some_iff.1 hi).1]
    rw [Option.map_some, Option.map_some, Option.map_some]
    cases hp : p i with
    | true => rw [if_pos (hmem.2 hp)]
    | false => rw [if_neg (by simp [hmem, hp]), hrest i call hp]

/-- First the calls that give up look for their files, then the others run one
after the other, then those give up. -/
theorem Possible.reached {returns : Nat → Bool} (h : Possible env r fs₀ calls returns) :
    ∃ st, (lts env F toJSONString r fs₀ calls).Reachable st ∧ EndsWith env r returns st := by
  have hstart : At calls (fun _ _ => .checking) (start fs₀ calls) := by
    intro i
    rw [start, List.getElem?_map]
  have checks : ∀ (i : Nat) (call : Call) (st : Pool FileSystem Thread), (!returns i) = true →
      calls[i]? = some call → st.shared = fs₀ → st.threads[i]? = some ⟨call, .checking⟩ →
      ∃ ls fs', (lts env F toJSONString r fs₀ calls).Run st ls
        ⟨fs', st.threads.set i ⟨call, if returns i then .checking else .creating⟩⟩ ∧ fs' = fs₀ := by
    intro i call st hp hi hfs ht
    have hreturns : returns i = false := by simpa using hp
    have hm : call.file env r ∉ fs₀ := fun hold => by
      rw [h.old i call hi hold] at hreturns
      cases hreturns
    rw [hreturns]
    exact ⟨_, fs₀, moves_once ht (by simp [body, hm, hfs]), rfl⟩
  obtain ⟨ls₁, st₁, hrun₁, -, hat₁⟩ := moves_each (fun i => !returns i) (I := fun fs => fs = fs₀) checks
    (fun i _ hp => if_pos (by simpa using hp)) (show (start fs₀ calls).shared = fs₀ from rfl) hstart
  have runs : ∀ (i : Nat) (call : Call) (st : Pool FileSystem Thread), returns i = true → calls[i]? = some call →
      True → st.threads[i]? = some ⟨call, if returns i then .checking else .creating⟩ →
      ∃ ls fs', (lts env F toJSONString r fs₀ calls).Run st ls
        ⟨fs', st.threads.set i ⟨call, if returns i then .returned else .creating⟩⟩ ∧ True := by
    intro i call st hp _ _ ht
    rw [if_pos hp] at ht ⊢
    obtain ⟨ls, fs', hrun⟩ := returns_alone (F := F) ht
    exact ⟨ls, fs', hrun, trivial⟩
  obtain ⟨ls₂, st₂, hrun₂, -, hat₂⟩ := moves_each returns (I := fun _ => True) runs
    (fun i _ hp => by simp [hp]) trivial hat₁
  have hreach₂ : (lts env F toJSONString r fs₀ calls).Reachable st₂ := ⟨_, _, rfl, hrun₁.append hrun₂⟩
  have hthere : ∀ (i : Nat) (call : Call), calls[i]? = some call → call.file env r ∈ st₂.shared := by
    intro i call hi
    obtain ⟨j, other, hj, hfile, hreturns⟩ := h.new i call hi
    have hu : st₂.threads[j]? = some ⟨other, .returned⟩ := by simp [hat₂ j, hj, hreturns]
    exact hfile ▸ ((account_inductive.reachable st₂ hreach₂).placed _ (List.mem_of_getElem? hu)).opened rfl
  have throws : ∀ (i : Nat) (call : Call) (st : Pool FileSystem Thread), (!returns i) = true →
      calls[i]? = some call → st.shared = st₂.shared →
      st.threads[i]? = some ⟨call, if returns i then .returned else .creating⟩ →
      ∃ ls fs', (lts env F toJSONString r fs₀ calls).Run st ls ⟨fs', st.threads.set i
        ⟨call, if returns i then .returned else .threw (notCreated env (call.file env r))⟩⟩ ∧ fs' = st₂.shared := by
    intro i call st hp hi hfs ht
    have hreturns : returns i = false := by simpa using hp
    rw [hreturns] at ht ⊢
    exact ⟨_, st₂.shared, moves_once ht (by simp [body, createNewFile, hfs, hthere i call hi]), rfl⟩
  obtain ⟨ls₃, st₃, hrun₃, -, hat₃⟩ := moves_each (fun i => !returns i) (I := fun fs => fs = st₂.shared) throws
    (fun i call hp => by simp [show returns i = true by simpa using hp]) (show st₂.shared = st₂.shared from rfl) hat₂
  refine ⟨st₃, ⟨_, _, rfl, (hrun₁.append hrun₂).append hrun₃⟩, fun i t ht => ?_⟩
  rw [hat₃] at ht
  obtain ⟨call, -, rfl⟩ := Option.map_eq_some_iff.1 ht
  rfl

/-- **Lost lines.** Whatever any calls do at the same time, each file keeps what
it held, followed by the lines of its calls that have returned, each once.
Calls can end by giving up exactly where their file did not exist before and
another call of the same file returns. -/
theorem lost_lines (env : FileEnvironment) (F : SampleDateFormatter) (toJSONString : JSONObject Value → String)
    (r : FileSampleReceiver) (fs : FileSystem) (calls : List Call) :
    (∀ st, (lts env F toJSONString r fs calls).Reachable st → ∀ file, ∃ lines,
      content st.shared file = content fs file ++ lines ∧
      lines.Perm (linesFor env F toJSONString r (returnedCalls st) file)) ∧
    ∀ returns, (∃ st, (lts env F toJSONString r fs calls).Reachable st ∧ EndsWith env r returns st) ↔
      Possible env r fs calls returns := by
  refine ⟨fun st hr => (account_inductive.reachable st hr).lines, fun returns => ⟨?_, Possible.reached⟩⟩
  rintro ⟨st, hr, hends⟩
  exact (account_inductive.reachable st hr).possible hends

end SensorSamplor.LogFiles
