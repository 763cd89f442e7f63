import Mathlib.Data.List.Sort
import SensorSamplor.L5Concurrency.Delivery

/-!
# The order of the puts

`send` hands every sample to a thread of its own and `put` overwrites what
it finds, so the buffer shows the sample that was put last, not the one
that was sent last. `never_goes_back_iff` says which runs of `Delivery` show
no difference: with samples of one platform and sensor type sent in
ascending order of their time stamps, the kept time stamp never decreases
and ends at the greatest one exactly when the senders put in the order in
which they were started.
-/
namespace SensorSamplor.Delivery

open SensorSamplor.Core

variable {R : Type} {mgr : SampleReceiverManager R}

/-- The buffer is what the puts made of it, and what is not put yet is waiting. -/
structure Tracked (st : State R) : Prop where
  buffer : st.distributedMap = .putAll st.puts
  perm : (st.puts ++ st.senders).Perm st.sent

theorem tracked_inductive (mgr : SampleReceiverManager R) : (lts mgr .empty).Inductive Tracked where
  init := by rintro st rfl; exact ⟨rfl, .nil⟩
  step := by
    intro st l st' ht hs
    obtain ⟨s, -, rfl⟩ | ⟨i, s, rest, -, htake, rfl⟩ | ⟨i, e, rest, -, -, rfl⟩ | ⟨i, r, rest, -, -, rfl⟩ :=
      step_cases hs
    · refine ⟨ht.buffer, ?_⟩
      show (st.puts ++ (st.senders ++ [s])).Perm (st.sent ++ [s])
      rw [← List.append_assoc]
      exact ht.perm.append_right [s]
    · refine ⟨?_, ?_⟩
      · show st.distributedMap.put s = .putAll (st.puts ++ [s])
        rw [ht.buffer, DistributedMap.putAll, DistributedMap.putAll, List.foldl_append]
        rfl
      · show (st.puts ++ [s] ++ rest).Perm st.sent
        rw [List.append_assoc]
        exact ((takeAt_perm htake).append_left st.puts).trans ht.perm
    · exact ⟨ht.buffer, ht.perm⟩
    · exact ⟨ht.buffer, ht.perm⟩

/-- A step appends at most one put. -/
theorem step_puts {st st' : State R} {l : Step} (h : step mgr st l = some st') :
    st'.puts = st.puts ∨ ∃ s, st'.puts = st.puts ++ [s] := by
  obtain ⟨s, -, rfl⟩ | ⟨i, s, rest, -, -, rfl⟩ | ⟨i, e, rest, -, -, rfl⟩ | ⟨i, r, rest, -, -, rfl⟩ :=
    step_cases h
  · exact .inl rfl
  · exact .inr ⟨s, rfl⟩
  · exact .inl rfl
  · exact .inl rfl

theorem run_puts {m : DistributedMap} {st st' : State R} {ls : List Step}
    (hr : (lts mgr m).Run st ls st') : st.puts <+: st'.puts := by
  induction hr with
  | nil s => exact List.prefix_refl _
  | cons hs _ ih =>
    obtain h | ⟨s, h⟩ := step_puts hs
    · rw [← h]; exact ih
    · exact (List.prefix_append _ [s]).trans (h ▸ ih)

/-- Every prefix of the puts was all that was put at some point of the run. -/
theorem reaches_take {m : DistributedMap} {st : State R} {ls : List Step}
    (hr : (lts mgr m).Run (init m) ls st) {k : Nat} (hk : k ≤ st.puts.length) :
    ∃ l₁ l₂ mid, ls = l₁ ++ l₂ ∧ (lts mgr m).Run (init m) l₁ mid ∧ (lts mgr m).Run mid l₂ st ∧
      mid.puts = st.puts.take k := by
  refine hr.concat_induction (P := fun ls st => k ≤ st.puts.length → ∃ l₁ l₂ mid, ls = l₁ ++ l₂ ∧
    (lts mgr m).Run (init m) l₁ mid ∧ (lts mgr m).Run mid l₂ st ∧ mid.puts = st.puts.take k)
    (fun _ => ⟨[], [], _, rfl, .nil _, .nil _, by simp [init]⟩) ?_ hk
  intro ls l s s' hr hs ih hk
  by_cases hle : k ≤ s.puts.length
  · obtain ⟨l₁, l₂, mid, rfl, h₁, h₂, ht⟩ := ih hle
    refine ⟨l₁, l₂ ++ [l], mid, by simp, h₁, h₂.append (.single hs), ?_⟩
    obtain h | ⟨x, h⟩ := step_puts hs
    · rw [h, ht]
    · rw [h, ht, List.take_append_of_le_length hle]
  · have hall : s'.puts.take k = s'.puts := by
      apply List.take_of_length_le
      obtain h | ⟨x, h⟩ := step_puts hs
      · rw [h] at hk; omega
      · rw [h, List.length_append, List.length_singleton]; omega
    exact ⟨ls ++ [l], [], s', by simp, hr.append (.single hs), .nil s', hall.symm⟩

/-! ## Samples of one node -/

/-- The entries kept for a platform and sensor type. -/
def State.kept (st : State R) (node : String × String) : List Sample :=
  st.distributedMap.entriesOf node

/-- Strictly earlier by time stamp. -/
def Earlier (a b : Sample) : Prop := a.timestamp.millis < b.timestamp.millis

instance : Std.Antisymm Earlier := ⟨fun a b h h' => by unfold Earlier at h h'; omega⟩

theorem kept_eq {node : String × String} {st : State R} (ht : Tracked st)
    (hnode : ∀ s ∈ st.puts, s.node = node) : st.kept node = st.puts.getLast?.toList := by
  have hno : DistributedMap.NoShift st.puts := fun a ha b hb h =>
    DistributedMap.node_ne_of_shifts h ((hnode a ha).trans (hnode b hb).symm)
  rw [State.kept, ht.buffer, DistributedMap.entriesOf_putAll hno,
    List.filter_eq_self.2 fun s hs => decide_eq_true (hnode s hs)]

/-- The time stamp kept for `node` never decreases along the run, and with
no sender left the entry is the sent sample with the greatest one. -/
structure NeverGoesBack (mgr : SampleReceiverManager R) (node : String × String) (ls : List Step)
    (st : State R) : Prop where
  mono : ∀ l₁ l₂ l₃ a b, ls = l₁ ++ l₂ ++ l₃ → (lts mgr .empty).Run (init .empty) l₁ a →
    (lts mgr .empty).Run a l₂ b → (lts mgr .empty).Run b l₃ st →
    ∀ x ∈ a.kept node, ∃ y ∈ b.kept node, x.timestamp.millis ≤ y.timestamp.millis
  greatest : st.senders = [] → st.sent ≠ [] → ∃ y ∈ st.sent, st.kept node = [y] ∧
    ∀ x ∈ st.sent, x.timestamp.millis ≤ y.timestamp.millis

section OneNode

variable {node : String × String} {ls : List Step} {st : State R}

theorem subperm_sent (ht : Tracked st) : st.puts.Subperm st.sent :=
  (List.sublist_append_left st.puts st.senders).subperm.trans ht.perm.subperm

/-- Different puts carry samples of different time stamps. -/
theorem puts_distinct (ht : Tracked st) (hasc : st.sent.Pairwise Earlier) :
    st.puts.Pairwise fun a b => a.timestamp.millis ≠ b.timestamp.millis := by
  obtain ⟨l, hperm, hsub⟩ := subperm_sent ht
  have hl : l.Pairwise fun a b => a.timestamp.millis ≠ b.timestamp.millis :=
    (hasc.sublist hsub).imp fun h => by unfold Earlier at h; omega
  exact (hperm.pairwise_iff fun h => h.symm).1 hl

/-- When the kept time stamp never decreases, the puts are in ascending order. -/
theorem puts_ascending (hr : (lts mgr .empty).Run (init .empty) ls st)
    (hnode : ∀ s ∈ st.sent, s.node = node) (hasc : st.sent.Pairwise Earlier)
    (h : NeverGoesBack mgr node ls st) : st.puts.Pairwise Earlier := by
  have ht := (tracked_inductive mgr).reachable st ⟨_, _, rfl, hr⟩
  have keptAt : ∀ {l k} {mid : State R}, (lts mgr .empty).Run (init .empty) l mid →
      mid.puts = st.puts.take (k + 1) → ∀ hk : k < st.puts.length, mid.kept node = [st.puts[k]] := by
    intro l k mid hrun htake hk
    have hmid := (tracked_inductive mgr).reachable mid ⟨_, _, rfl, hrun⟩
    rw [kept_eq hmid fun s hs => hnode s ((subperm_sent ht).subset (List.mem_of_mem_take (htake ▸ hs))), htake,
      List.take_succ_eq_append_getElem hk, List.getLast?_concat, Option.toList_some]
  rw [List.pairwise_iff_getElem]
  intro i j hi hj hij
  obtain ⟨l, l₃, b, rfl, hb, hb₃, hbt⟩ := reaches_take hr (k := j + 1) (by omega)
  obtain ⟨l₁, l₂, a, rfl, ha, ha₂, hat⟩ := reaches_take hb (k := i + 1) (by rw [hbt, List.length_take]; omega)
  rw [hbt, List.take_take, Nat.min_eq_left (by omega)] at hat
  obtain ⟨y, hy, hle⟩ := h.mono l₁ l₂ l₃ a b rfl ha ha₂ hb₃ st.puts[i] (by rw [keptAt ha hat hi]; simp)
  rw [keptAt hb hbt hj, List.mem_singleton] at hy
  subst hy
  have hne := List.pairwise_iff_getElem.1 (puts_distinct ht hasc) i j hi hj hij
  unfold Earlier
  omega

/-- The prefixes of an ascending list end in ascending time stamps. -/
theorem getLast?_le {p l : List Sample} (hp : p <+: l) (hasc : l.Pairwise Earlier) {x : Sample}
    (hx : x ∈ p.getLast?) : ∃ y ∈ l.getLast?, x.timestamp.millis ≤ y.timestamp.millis := by
  obtain ⟨q, rfl⟩ := hp
  rcases List.eq_nil_or_concat q with rfl | ⟨q, z, rfl⟩
  · exact ⟨x, by simpa using hx, le_refl _⟩
  · refine ⟨z, by simp [List.concat_eq_append], ?_⟩
    have := (List.pairwise_append.1 hasc).2.2 x (List.mem_of_getLast? hx) z (by simp)
    exact le_of_lt this

/-- **Never back in time, exactly when in order.** For samples of one
platform and sensor type, sent in ascending order: the kept time stamp never
decreases in the run and ends at the greatest one if and only if the puts
ran in the order of the sends. -/
theorem never_goes_back_iff (mgr : SampleReceiverManager R) (node : String × String) (ls : List Step)
    (st : State R) (hr : (lts mgr .empty).Run (init .empty) ls st)
    (hnode : ∀ s ∈ st.sent, s.node = node) (hasc : st.sent.Pairwise Earlier) :
    NeverGoesBack mgr node ls st ↔ st.puts.Sublist st.sent := by
  have ht := (tracked_inductive mgr).reachable st ⟨_, _, rfl, hr⟩
  have hputs : ∀ s ∈ st.puts, s.node = node := fun s hs => hnode s ((subperm_sent ht).subset hs)
  refine ⟨fun h => ?_, fun hsub => ⟨?_, ?_⟩⟩
  · exact List.sublist_of_subperm_of_pairwise (subperm_sent ht) (puts_ascending hr hnode hasc h) hasc
  · rintro l₁ l₂ l₃ a b rfl ha hab hb x hx
    have hpa := run_puts hab
    have hpb := run_puts hb
    have hta := (tracked_inductive mgr).reachable a ⟨_, _, rfl, ha⟩
    have htb := (tracked_inductive mgr).reachable b ⟨_, _, rfl, ha.append hab⟩
    rw [kept_eq hta fun s hs => hputs s ((hpa.trans hpb).subset hs), Option.mem_toList] at hx
    rw [kept_eq htb fun s hs => hputs s (hpb.subset hs)]
    obtain ⟨y, hy, hle⟩ := getLast?_le hpa ((hasc.sublist hsub).sublist hpb.sublist) hx
    exact ⟨y, Option.mem_toList.2 hy, hle⟩
  · intro hs hne
    have heq : st.puts = st.sent := by
      have hperm := ht.perm
      rw [hs, List.append_nil] at hperm
      exact hsub.eq_of_length hperm.length_eq
    rw [kept_eq ht hputs, heq, List.getLast?_eq_getLast_of_ne_nil hne]
    refine ⟨st.sent.getLast hne, List.getLast_mem hne, rfl, fun x hx => ?_⟩
    obtain ⟨p, q, hpq⟩ := List.append_of_mem hx
    have hpre : (p ++ [x]) <+: st.sent := ⟨q, by simp [hpq]⟩
    obtain ⟨y, hy, hle⟩ := getLast?_le hpre hasc (x := x) (by rw [List.getLast?_concat]; rfl)
    rw [List.getLast?_eq_getLast_of_ne_nil hne, Option.mem_some] at hy
    exact hy ▸ hle

end OneNode

/-- Two readings of one node, a millisecond apart. -/
def twoReadings : List Sample :=
  [.transferSample ⟨0, 1⟩ ⟨0, "UTC"⟩ "node" "temperature",
   .transferSample ⟨0, 2⟩ ⟨1, "UTC"⟩ "node" "temperature"]

theorem twoReadings_node : ∀ s ∈ twoReadings, s.node = ("node", "temperature") := by decide

theorem twoReadings_ascending : twoReadings.Pairwise Earlier := by unfold Earlier; decide

/-- Both senders are started, then the sender `i` of them runs before the other. -/
def bothSent (i : Nat) : List Step := twoReadings.map .send ++ [.put i, .put 0]

theorem bothSent_in_order : ∃ st, (lts bothReceivers .empty).Run (init .empty) (bothSent 0) st ∧
    NeverGoesBack bothReceivers ("node", "temperature") (bothSent 0) st :=
  have run : (lts bothReceivers .empty).Run (init .empty) (bothSent 0) _ := LTS.run_of_exec rfl
  ⟨_, run, (never_goes_back_iff bothReceivers _ _ _ run twoReadings_node twoReadings_ascending).2
    (List.Sublist.refl twoReadings)⟩

/-- The second sender overtakes the first: the older reading stays in the buffer. -/
theorem bothSent_overtaken : ∃ st, (lts bothReceivers .empty).Run (init .empty) (bothSent 1) st ∧
    st.sent = twoReadings ∧ (∀ s ∈ st.sent, s.node = ("node", "temperature")) ∧
    st.sent.Pairwise Earlier ∧ st.senders = [] ∧
    ¬ NeverGoesBack bothReceivers ("node", "temperature") (bothSent 1) st := by
  have run : (lts bothReceivers .empty).Run (init .empty) (bothSent 1) _ := LTS.run_of_exec rfl
  refine ⟨_, run, rfl, twoReadings_node, twoReadings_ascending, rfl, fun h => ?_⟩
  obtain ⟨y, -, hkept, hle⟩ := h.greatest rfl (List.cons_ne_nil _ _)
  have hy : [twoReadings[0]] = [y] := hkept
  rw [List.singleton_inj] at hy
  subst hy
  exact absurd (hle twoReadings[1] (List.getElem_mem (l := twoReadings) (by decide))) (by decide)

end SensorSamplor.Delivery
