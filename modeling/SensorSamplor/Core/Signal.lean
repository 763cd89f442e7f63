import Mathlib.Data.List.GetD

/-!
# Reading the pulses of a line

A signal is what one gets by reading a line again and again. `waitWhile` is
the loop that waits for a level to end and gives up when it lasts too long;
`takePulses` measures the low and the high part of a number of pulses with
it.

* `answer_iff`: the pulses are taken exactly when the line shows them, and none
  of their parts lasts too long.
* `answer_congr`: how much of the line is read at most.
* `answers_ofPulses`: a line that sends pulses is measured as them.
-/
namespace SensorSamplor.Core

/-- The level of a line at each read. -/
abbrev Signal := Nat → Bool

/-- A low level and the high level after it, by how often the loops that
wait for their ends have counted. -/
structure Pulse where
  low : Nat
  high : Nat
  deriving DecidableEq, Repr

namespace Signal

/-- `while (read() == level) if (++count >= limit) give up;`: the count and
where the next read is. Each round takes one of the `fuel`. -/
def waitWhile (limit : Nat) (line : Signal) (level : Bool) : (fuel count pos : Nat) → Option (Nat × Nat)
  | 0, _, _ => none
  | fuel + 1, count, pos =>
    if line pos = level then
      if limit ≤ count + 1 then none else waitWhile limit line level fuel (count + 1) (pos + 1)
    else some (count, pos + 1)

/-- The loop with the count at zero: it gives up before the fuel ends. -/
def wait (limit : Nat) (line : Signal) (level : Bool) (pos : Nat) : Option (Nat × Nat) :=
  waitWhile limit line level limit 0 pos

/-- The pulses one after the other. -/
def takePulses (limit : Nat) (line : Signal) : (n pos : Nat) → Option (List Pulse)
  | 0, _ => some []
  | n + 1, pos => do
    let (low, pos) ← wait limit line false pos
    let (high, pos) ← wait limit line true pos
    let pulses ← takePulses limit line n pos
    return ⟨low, high⟩ :: pulses

/-- The pulses after the end of the high level that comes first. -/
def answer (limit n : Nat) (line : Signal) : Option (List Pulse) := do
  let (_, pos) ← wait limit line true 0
  takePulses limit line n pos

/-! ## One level -/

/-- From `pos` on, `n` reads give the level. -/
def Stays (line : Signal) (level : Bool) (pos n : Nat) : Prop := ∀ j, j < n → line (pos + j) = level

variable {limit : Nat} {line : Signal} {level : Bool}

theorem stays_succ {pos n : Nat} :
    Stays line level pos (n + 1) ↔ line pos = level ∧ Stays line level (pos + 1) n := by
  constructor
  · intro h
    refine ⟨h 0 (by omega), fun j hj => ?_⟩
    have hnext := h (j + 1) (by omega)
    rwa [Nat.add_assoc, Nat.add_comm 1 j]
  · intro ⟨hfirst, hrest⟩ j hj
    cases j with
    | zero => exact hfirst
    | succ j =>
      have hnext := hrest j (by omega)
      rwa [Nat.add_assoc, Nat.add_comm 1 j] at hnext

theorem stays_zero (pos : Nat) : Stays line level pos 0 := fun j hj => by omega

theorem waitWhile_iff {fuel count pos count' pos' : Nat} (h : count + fuel = limit) :
    waitWhile limit line level fuel count pos = some (count', pos') ↔
      ∃ n, count' = count + n ∧ count' < limit ∧ Stays line level pos n ∧ line (pos + n) = !level ∧
        pos' = pos + n + 1 := by
  induction fuel generalizing count pos with
  | zero =>
    refine iff_of_false (by simp [waitWhile]) ?_
    rintro ⟨n, hcount, hlt, -⟩
    omega
  | succ fuel ih =>
    unfold waitWhile
    by_cases hlevel : line pos = level
    · rw [if_pos hlevel]
      by_cases hlimit : limit ≤ count + 1
      · rw [if_pos hlimit]
        refine iff_of_false (by simp) ?_
        rintro ⟨n, hcount, hlt, -, hend, -⟩
        -- the level lasts for at least one more read
        cases n with
        | zero => simp [hlevel] at hend
        | succ n => omega
      · rw [if_neg hlimit, ih (by omega)]
        constructor
        · rintro ⟨n, hcount, hlt, hstays, hend, hpos⟩
          refine ⟨n + 1, by omega, hlt, stays_succ.2 ⟨hlevel, hstays⟩, ?_, by omega⟩
          rwa [Nat.add_comm n 1, ← Nat.add_assoc]
        · rintro ⟨n, hcount, hlt, hstays, hend, hpos⟩
          cases n with
          | zero => simp [hlevel] at hend
          | succ n =>
            refine ⟨n, by omega, hlt, (stays_succ.1 hstays).2, ?_, by omega⟩
            rwa [Nat.add_assoc, Nat.add_comm 1 n]
    · rw [if_neg hlevel]
      constructor
      · rintro h
        simp only [Option.some.injEq, Prod.mk.injEq] at h
        refine ⟨0, by omega, by omega, stays_zero pos, ?_, by omega⟩
        cases hline : line pos <;> cases level <;> simp_all
      · rintro ⟨n, hcount, -, hstays, -, hpos⟩
        cases n with
        | zero => simp [hcount, hpos]
        | succ n => exact absurd (hstays 0 (by omega)) hlevel

/-- The wait ends where the level does, if that is before the limit. -/
theorem wait_iff {pos count pos' : Nat} : wait limit line level pos = some (count, pos') ↔
    count < limit ∧ Stays line level pos count ∧ line (pos + count) = !level ∧ pos' = pos + count + 1 := by
  unfold wait
  rw [waitWhile_iff (by omega)]
  constructor
  · rintro ⟨n, rfl, h⟩
    simpa using h
  · intro h
    exact ⟨count, by omega, h⟩

/-- A wait depends on no more reads than the limit. -/
theorem wait_congr {line' : Signal} {pos : Nat} (h : ∀ j, j < limit → line (pos + j) = line' (pos + j)) :
    wait limit line level pos = wait limit line' level pos := by
  have one : ∀ {a b : Signal}, (∀ j, j < limit → a (pos + j) = b (pos + j)) → ∀ r,
      wait limit a level pos = some r → wait limit b level pos = some r := by
    intro a b hab ⟨count, pos'⟩ hr
    obtain ⟨hlt, hstays, hend, hpos⟩ := wait_iff.1 hr
    refine wait_iff.2 ⟨hlt, fun j hj => ?_, ?_, hpos⟩
    · rw [← hab j (by omega)]
      exact hstays j hj
    · rw [← hab count hlt]
      exact hend
  cases hleft : wait limit line level pos with
  | some r => exact (one h r hleft).symm
  | none =>
    cases hright : wait limit line' level pos with
    | none => rfl
    | some r => rw [one (fun j hj => (h j hj).symm) r hright] at hleft; cases hleft

/-! ## Pulses -/

/-- From `pos` on the line shows the pulses, and is low after them. A loop has
not counted the read that ended the one before, so every part lasts one read
longer than it was counted. -/
def Shows (line : Signal) : (pos : Nat) → List Pulse → Prop
  | pos, [] => line pos = false
  | pos, p :: ps => Stays line false pos (p.low + 1) ∧ Stays line true (pos + (p.low + 1)) (p.high + 1) ∧
      Shows line (pos + (p.low + 1) + (p.high + 1)) ps

theorem Shows.low {pos : Nat} {ps : List Pulse} (h : Shows line pos ps) : line pos = false := by
  cases ps with
  | nil => exact h
  | cons p ps => exact (stays_succ.1 h.1).1

/-- **What is taken is what the line shows**, after the read of its first low level. -/
theorem takePulses_iff {n pos : Nat} {ps : List Pulse} (hlow : line pos = false) :
    takePulses limit line n (pos + 1) = some ps ↔
      ps.length = n ∧ (∀ p ∈ ps, p.low < limit ∧ p.high < limit) ∧ Shows line pos ps := by
  induction n generalizing pos ps with
  | zero =>
    simp only [takePulses, Option.some.injEq]
    constructor
    · rintro rfl
      exact ⟨rfl, by simp, hlow⟩
    · rintro ⟨hlength, -⟩
      exact (List.length_eq_zero_iff.1 hlength).symm
  | succ n ih =>
    constructor
    · intro h
      simp only [takePulses, Option.bind_eq_bind, Option.bind_eq_some_iff, Prod.exists, Option.pure_def,
        Option.some.injEq] at h
      obtain ⟨low, pos₁, hlow', high, pos₂, hhigh', rest, hrest, rfl⟩ := h
      obtain ⟨hlt₁, hstays₁, hend₁, rfl⟩ := wait_iff.1 hlow'
      obtain ⟨hlt₂, hstays₂, hend₂, rfl⟩ := wait_iff.1 hhigh'
      obtain ⟨hlength, hlimits, hshows⟩ := (ih hend₂).1 hrest
      refine ⟨by simp [hlength], ?_, stays_succ.2 ⟨hlow, hstays₁⟩, stays_succ.2 ⟨?_, ?_⟩, ?_⟩
      · exact List.forall_mem_cons.2 ⟨⟨hlt₁, hlt₂⟩, hlimits⟩
      · rw [← Nat.add_assoc, Nat.add_right_comm]
        exact hend₁
      · rwa [← Nat.add_assoc pos, Nat.add_right_comm pos]
      · have hpos : pos + (low + 1) + (high + 1) = pos + 1 + low + 1 + high := by omega
        rw [hpos]
        exact hshows
    · rintro ⟨hlength, hlimits, hshows⟩
      cases ps with
      | nil => cases hlength
      | cons p ps =>
        obtain ⟨hlimit, hlimits⟩ := List.forall_mem_cons.1 hlimits
        obtain ⟨hstays₁, hstays₂, hshows⟩ := hshows
        obtain ⟨hhigh, hstays₂⟩ := stays_succ.1 hstays₂
        have hpos : pos + (p.low + 1) + (p.high + 1) = pos + 1 + p.low + 1 + p.high := by omega
        rw [hpos] at hshows
        have hfirst : wait limit line false (pos + 1) = some (p.low, pos + 1 + p.low + 1) := by
          refine wait_iff.2 ⟨hlimit.1, (stays_succ.1 hstays₁).2, ?_, rfl⟩
          rwa [Nat.add_right_comm, Nat.add_assoc]
        have hsecond : wait limit line true (pos + 1 + p.low + 1) =
            some (p.high, pos + 1 + p.low + 1 + p.high + 1) := by
          refine wait_iff.2 ⟨hlimit.2, ?_, hshows.low, rfl⟩
          rwa [← Nat.add_assoc pos, Nat.add_right_comm pos] at hstays₂
        have hrest := (ih hshows.low).2 ⟨by simpa using hlength, hlimits, hshows⟩
        simp [takePulses, hfirst, hsecond, hrest]

/-- What is taken depends on no more reads than the limit for each level. -/
theorem takePulses_congr {line' : Signal} {n pos : Nat}
    (h : ∀ j, j < 2 * n * limit → line (pos + j) = line' (pos + j)) :
    takePulses limit line n pos = takePulses limit line' n pos := by
  induction n generalizing pos with
  | zero => rfl
  | succ n ih =>
    have hlength : 2 * (n + 1) * limit = limit + (limit + 2 * n * limit) := by
      rw [Nat.mul_add, Nat.add_mul]
      omega
    have hfirst : wait limit line false pos = wait limit line' false pos := wait_congr fun j hj => h j (by omega)
    cases hlow : wait limit line' false pos with
    | none => simp [takePulses, hfirst, hlow]
    | some r =>
      obtain ⟨hlt, -, -, hpos⟩ := wait_iff.1 hlow
      have hshift : ∀ j, j < limit + 2 * n * limit → line (r.2 + j) = line' (r.2 + j) := by
        intro j hj
        have hj' := h (r.1 + 1 + j) (by omega)
        rw [hpos]
        rwa [← Nat.add_assoc, ← Nat.add_assoc] at hj'
      have hsecond : wait limit line true r.2 = wait limit line' true r.2 :=
        wait_congr fun j hj => hshift j (by omega)
      cases hhigh : wait limit line' true r.2 with
      | none => simp [takePulses, hfirst, hlow, hsecond, hhigh]
      | some r' =>
        obtain ⟨hlt', -, -, hpos'⟩ := wait_iff.1 hhigh
        have hrest : takePulses limit line n r'.2 = takePulses limit line' n r'.2 := by
          refine ih fun j hj => ?_
          have hj' := hshift (r'.1 + 1 + j) (by omega)
          rw [hpos']
          rwa [← Nat.add_assoc, ← Nat.add_assoc] at hj'
        simp [takePulses, hfirst, hlow, hsecond, hhigh, hrest]

/-! ## The answer -/

/-- The line is high for a while and then shows the pulses, none of its levels
for too long. -/
structure Answers (limit n : Nat) (line : Signal) (pulses : List Pulse) : Prop where
  shows : ∃ count, count < limit ∧ Stays line true 0 count ∧ Shows line count pulses
  length : pulses.length = n
  counts : ∀ p ∈ pulses, p.low < limit ∧ p.high < limit

/-- **The loops measure the pulses that the line answers with.** -/
theorem answer_iff {n : Nat} {pulses : List Pulse} :
    answer limit n line = some pulses ↔ Answers limit n line pulses := by
  unfold answer
  constructor
  · intro h
    simp only [Option.bind_eq_bind, Option.bind_eq_some_iff, Prod.exists] at h
    obtain ⟨count, pos, hwait, htake⟩ := h
    obtain ⟨hlt, hstays, hend, rfl⟩ := wait_iff.1 hwait
    rw [Nat.zero_add] at hend htake
    obtain ⟨hlength, hcounts, hshows⟩ := (takePulses_iff hend).1 htake
    exact ⟨⟨count, hlt, hstays, hshows⟩, hlength, hcounts⟩
  · intro h
    obtain ⟨count, hlt, hstays, hshows⟩ := h.shows
    have hwait : wait limit line true 0 = some (count, count + 1) := by
      refine wait_iff.2 ⟨hlt, hstays, ?_, by omega⟩
      rw [Nat.zero_add]
      exact hshows.low
    have htake := (takePulses_iff hshows.low).2 ⟨h.length, h.counts, hshows⟩
    simp [hwait, htake]

/-- The answer depends on no more reads than the limit for each level. -/
theorem answer_congr {line' : Signal} {n : Nat} (h : ∀ j, j < (2 * n + 1) * limit → line j = line' j) :
    answer limit n line = answer limit n line' := by
  have hreads : (2 * n + 1) * limit = 2 * n * limit + limit := by rw [Nat.add_mul, Nat.one_mul]
  have hwait : wait limit line true 0 = wait limit line' true 0 := wait_congr fun j hj => h _ (by omega)
  unfold answer
  rw [hwait]
  cases hfirst : wait limit line' true 0 with
  | none => rfl
  | some r =>
    obtain ⟨hlt, -, -, hpos⟩ := wait_iff.1 hfirst
    exact takePulses_congr fun j hj => h _ (by omega)

/-! ## A sender -/

/-- The levels of some pulses. -/
def levels : List Pulse → List Bool
  | [] => []
  | p :: ps => List.replicate (p.low + 1) false ++ (List.replicate (p.high + 1) true ++ levels ps)

/-- High for `count` reads, then the pulses, then low. -/
def ofPulses (count : Nat) (pulses : List Pulse) : Signal := fun i =>
  (List.replicate count true ++ levels pulses).getD i false

/-- A part of the levels of a line that stays at one. -/
theorem stays_replicate (before after : List Bool) (level : Bool) (n : Nat) :
    Stays (fun i => (before ++ (List.replicate n level ++ after)).getD i false) level before.length n := by
  intro j hj
  show (before ++ (List.replicate n level ++ after)).getD (before.length + j) false = level
  rw [List.getD_append_right _ _ _ _ (Nat.le_add_right _ _), Nat.add_sub_cancel_left,
    List.getD_append _ _ _ _ (by simpa using hj), List.getD_replicate _ hj]

theorem shows_levels (before : List Bool) (ps : List Pulse) :
    Shows (fun i => (before ++ levels ps).getD i false) before.length ps := by
  induction ps generalizing before with
  | nil => simp [Shows, levels]
  | cons p ps ih =>
    have hlow := stays_replicate before (List.replicate (p.high + 1) true ++ levels ps) false (p.low + 1)
    have hhigh := stays_replicate (before ++ List.replicate (p.low + 1) false) (levels ps) true (p.high + 1)
    have hrest := ih (before ++ List.replicate (p.low + 1) false ++ List.replicate (p.high + 1) true)
    simp only [List.length_append, List.length_replicate, List.append_assoc] at hhigh hrest
    rw [← Nat.add_assoc] at hrest
    exact ⟨hlow, hhigh, hrest⟩

/-- Pulses that do not last too long are answered by the line that sends them. -/
theorem answers_ofPulses {count : Nat} {pulses : List Pulse} (hcount : count < limit)
    (h : ∀ p ∈ pulses, p.low < limit ∧ p.high < limit) :
    Answers limit pulses.length (ofPulses count pulses) pulses := by
  refine ⟨⟨count, hcount, ?_, ?_⟩, rfl, h⟩
  · exact stays_replicate [] (levels pulses) true count
  · have hshows := shows_levels (List.replicate count true) pulses
    rwa [List.length_replicate] at hshows

end Signal
end SensorSamplor.Core
