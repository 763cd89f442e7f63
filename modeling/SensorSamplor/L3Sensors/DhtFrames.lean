import SensorSamplor.L3Sensors.PiDhtRead

/-!
# The frames of the temperature and humidity sensor

A frame is two values in tenths, the second with a sign: two bytes each and
their sum. Its bits come most significant first, each as the length of the
high part of a pulse. Nothing in the source makes frames; what follows says
what a sender has to do to be understood.

* `sumMatches_iff`: the bytes whose sum matches are those of frames.
* `pi_dht_read_iff`: frames sent in time are read, and nothing else is.
* `noisy_byte`: pulses of one byte that are not in time never give another
  reading.
-/
namespace SensorSamplor

open SensorSamplor.Core PiMmio PiDhtRead

/-! ## Two bytes and a sign -/

theorem toNat_and_low (d : BitVec 8) : (d &&& 0x7F#8).toNat = d.toNat % 128 := by
  rw [BitVec.toNat_and]
  exact Nat.and_two_pow_sub_one_eq_mod d.toNat 7

theorem and_high_ne_zero (d : BitVec 8) : d &&& 0x80#8 ≠ 0#8 ↔ 128 ≤ d.toNat := by
  have hd := d.isLt
  have hbit : d.getLsbD 7 = decide (d.toNat / 128 % 2 = 1) := Nat.testBit_eq_decide_div_mod_eq
  rw [show (0x80#8 : BitVec 8) = BitVec.twoPow 8 7 from rfl, BitVec.and_twoPow, hbit]
  by_cases h : 128 ≤ d.toNat
  · have hone : d.toNat / 128 % 2 = 1 := by omega
    simp [hone, h]
  · have hzero : d.toNat / 128 % 2 = 0 := by omega
    simp [hzero, h]

/-- The values of the sensor that sends tenths. -/
theorem valuesOf_DHT22 (data : List (BitVec 8)) : valuesOf DHT22 data =
    (Double.nearestFloat (((byte data 0).toNat * 256 + (byte data 1).toNat : ℕ) / 10),
      if 128 ≤ (byte data 2).toNat then
        Double.nearestFloat (((byte data 2).toNat % 128 * 256 + (byte data 3).toNat : ℕ) / 10) * -1
      else Double.nearestFloat (((byte data 2).toNat % 128 * 256 + (byte data 3).toNat : ℕ) / 10)) := by
  simp only [← and_high_ne_zero, ← toNat_and_low]
  rfl

/-- The humidity in tenths of a percent, the temperature in tenths of a degree. -/
structure Frame where
  humidity : Nat
  negative : Bool
  temperature : Nat
  humidity_lt : humidity < 2 ^ 16
  temperature_lt : temperature < 2 ^ 15

namespace Frame

def words (f : Frame) : List (BitVec 8) :=
  [BitVec.ofNat 8 (f.humidity / 256), BitVec.ofNat 8 (f.humidity % 256),
    BitVec.ofNat 8 ((if f.negative then 128 else 0) + f.temperature / 256), BitVec.ofNat 8 (f.temperature % 256)]

def bytes (f : Frame) : List (BitVec 8) := f.words ++ [BitVec.ofNat 8 (BitWords.checksum f.words)]

def bits (f : Frame) : List Bool := f.bytes.flatMap BitWords.toBits

/-- The temperature with its sign, in tenths. -/
def tenths (f : Frame) : Int := if f.negative then -f.temperature else f.temperature

/-- What the driver makes of the frame: humidity and temperature. -/
def values (f : Frame) : ℚ × ℚ := valuesOf DHT22 f.bytes

/-- The frame with these four bytes. -/
def ofWords (a b c d : BitVec 8) : Frame where
  humidity := a.toNat * 256 + b.toNat
  negative := decide (128 ≤ c.toNat)
  temperature := c.toNat % 128 * 256 + d.toNat
  humidity_lt := by omega
  temperature_lt := by omega

/-! ## Bytes -/

theorem words_ofWords (a b c d : BitVec 8) : (ofWords a b c d).words = [a, b, c, d] := by
  have h₀ : (ofWords a b c d).humidity / 256 = a.toNat := by
    simp only [ofWords]
    omega
  have h₁ : (ofWords a b c d).humidity % 256 = b.toNat := by
    simp only [ofWords]
    omega
  have h₂ : (if (ofWords a b c d).negative then 128 else 0) + (ofWords a b c d).temperature / 256 = c.toNat := by
    simp only [ofWords, decide_eq_true_eq]
    split <;> omega
  have h₃ : (ofWords a b c d).temperature % 256 = d.toNat := by
    simp only [ofWords]
    rw [Nat.mul_add_mod', Nat.mod_eq_of_lt d.isLt]
  simp only [words, h₀, h₁, h₂, h₃, BitVec.ofNat_toNat, BitVec.setWidth_eq]

@[simp] theorem length_words (f : Frame) : f.words.length = 4 := rfl

@[simp] theorem length_bytes (f : Frame) : f.bytes.length = 5 := rfl

theorem length_bits (f : Frame) : f.bits.length = 5 * 8 := by
  have h : ∀ words : List (BitVec 8), (words.flatMap BitWords.toBits).length = words.length * 8 := by
    intro words
    simp [List.length_flatMap]
  exact h f.bytes

theorem checked (f : Frame) : BitWords.Checked f.words (BitVec.ofNat 8 (BitWords.checksum f.words)) := by
  unfold BitWords.Checked
  rw [BitVec.toNat_ofNat, Nat.mod_eq_of_lt]
  exact Nat.mod_lt _ (by decide)

/-- The byte with the sign. -/
theorem toNat_sign_byte (f : Frame) :
    (byte f.bytes 2).toNat = (if f.negative then 128 else 0) + f.temperature / 256 := by
  have ht := f.temperature_lt
  show (BitVec.ofNat 8 _).toNat = _
  rw [BitVec.toNat_ofNat, Nat.mod_eq_of_lt]
  split <;> omega

theorem values_eq (f : Frame) : f.values = (Double.nearestFloat (f.humidity / 10),
    if f.negative then Double.nearestFloat (f.temperature / 10) * -1
      else Double.nearestFloat (f.temperature / 10)) := by
  have hh := f.humidity_lt
  have ht := f.temperature_lt
  have hhumidity : (byte f.bytes 0).toNat * 256 + (byte f.bytes 1).toNat = f.humidity := by
    show (BitVec.ofNat 8 _).toNat * 256 + (BitVec.ofNat 8 _).toNat = _
    rw [BitVec.toNat_ofNat, BitVec.toNat_ofNat]
    omega
  have hlow : (byte f.bytes 3).toNat = f.temperature % 256 := by
    show (BitVec.ofNat 8 _).toNat = _
    rw [BitVec.toNat_ofNat]
    omega
  have hsign := f.toNat_sign_byte
  have hlt : f.temperature / 256 < 128 := by omega
  rw [values, valuesOf_DHT22, hhumidity, hlow, hsign]
  cases f.negative with
  | false =>
    have hnot : ¬ 128 ≤ f.temperature / 256 := by omega
    simp only [Bool.false_eq_true, if_false, Nat.zero_add, Nat.mod_eq_of_lt hlt, Nat.div_add_mod', hnot]
  | true =>
    simp only [if_true, Nat.add_mod_left, Nat.mod_eq_of_lt hlt, Nat.div_add_mod', Nat.le_add_right]

/-- A `float` is near enough to tell the tenths. -/
theorem values_near (f : Frame) :
    |f.values.1 - f.humidity / 10| < 1 / 40 ∧ |f.values.2 - f.tenths / 10| < 1 / 40 := by
  have ht := Double.abs_nearestFloat_sub_lt (lt_trans f.temperature_lt (by decide))
  rw [values_eq, tenths]
  refine ⟨Double.abs_nearestFloat_sub_lt f.humidity_lt, ?_⟩
  cases f.negative with
  | false => simpa using ht
  | true =>
    have hneg : Double.nearestFloat (f.temperature / 10) * -1 - ((-(f.temperature : ℤ) : ℤ) : ℚ) / 10 =
        -(Double.nearestFloat (f.temperature / 10) - f.temperature / 10) := by
      push_cast
      ring
    simp only [if_true]
    rwa [hneg, abs_neg]

end Frame

/-! ## Sums -/

theorem sumMatches_append {words : List (BitVec 8)} (h : words.length = 4) (last : BitVec 8) :
    sumMatches (words ++ [last]) = true ↔ BitWords.Checked words last := by
  obtain ⟨a, b, c, d, rfl⟩ := List.length_eq_four.1 h
  unfold sumMatches
  rw [decide_eq_true_iff, show (0xFF : ℕ) = 2 ^ 8 - 1 from rfl, Nat.and_two_pow_sub_one_eq_mod]
  simp [BitWords.Checked, BitWords.checksum, byte, Nat.add_assoc]

/-- Bytes whose sum matches are those of a frame. -/
theorem sumMatches_iff {data : List (BitVec 8)} (h : data.length = 5) :
    sumMatches data = true ↔ ∃ f : Frame, f.bytes = data := by
  constructor
  · intro hsum
    obtain ⟨words, last, rfl⟩ : ∃ words last, data = words ++ [last] :=
      ⟨_, _, (List.dropLast_concat_getLast (List.ne_nil_of_length_eq_add_one h)).symm⟩
    have hwords : words.length = 4 := by simpa using h
    have hchecked := (sumMatches_append hwords last).1 hsum
    obtain ⟨a, b, c, d, rfl⟩ := List.length_eq_four.1 hwords
    refine ⟨Frame.ofWords a b c d, ?_⟩
    rw [Frame.bytes, Frame.words_ofWords, ← hchecked, BitVec.ofNat_toNat, BitVec.setWidth_eq]
  · rintro ⟨f, rfl⟩
    exact (sumMatches_append f.length_words _).2 f.checked

namespace PiDhtRead

/-! ## Pulses in time -/

theorem length_bitsOf {line : Signal} {pulses : List Pulse} (h : Answers line pulses) :
    (bitsOf pulses).length = 5 * 8 := by
  rw [bitsOf, List.length_map, List.length_drop, h.length]
  rfl

theorem getElem?_bitsOf (pulses : List Pulse) (k : Nat) :
    (bitsOf pulses)[k]? = (pulses.drop 1)[k]?.map fun p => decide (threshold pulses ≤ p.high) := List.getElem?_map

/-- The high part of a pulse tells a bit, next to low parts of some lengths. -/
def Tells (shortest longest : Nat) (bit : Bool) (p : Pulse) : Prop :=
  if bit then longest ≤ p.high else p.high < shortest

/-- The pulses after the first one send the bits, except for the noisy ones. -/
def Sends (bits : List Bool) (noisy : Nat → Prop) (pulses : List Pulse) : Prop :=
  ∃ shortest longest, (∀ p ∈ pulses.drop 1, shortest ≤ p.low ∧ p.low ≤ longest) ∧
    ∀ k bit p, bits[k]? = some bit → (pulses.drop 1)[k]? = some p → ¬ noisy k → Tells shortest longest bit p

/-- The average is between the shortest and the longest low part. -/
theorem threshold_bounds {line : Signal} {pulses : List Pulse} (h : Answers line pulses) {shortest longest : Nat}
    (hlow : ∀ p ∈ pulses.drop 1, shortest ≤ p.low ∧ p.low ≤ longest) :
    shortest ≤ threshold pulses ∧ threshold pulses ≤ longest := by
  have hlength : ((pulses.drop 1).map (·.low)).length = DHT_PULSES - 1 := by
    rw [List.length_map, List.length_drop, h.length]
  have hcounts : ∀ c ∈ (pulses.drop 1).map (·.low), shortest ≤ c ∧ c ≤ longest := by
    intro c hc
    obtain ⟨p, hp, rfl⟩ := List.mem_map.1 hc
    exact hlow p hp
  obtain ⟨hle, hge⟩ := sum_bounds hlength hcounts
  have hpos : 0 < DHT_PULSES - 1 := by decide
  unfold threshold
  exact ⟨(Nat.le_div_iff_mul_le hpos).2 (by rwa [Nat.mul_comm]), Nat.div_le_of_le_mul hge⟩

/-- A pulse that is not noisy is told for what it is. -/
theorem getElem?_bitsOf_of_sends {line : Signal} {pulses : List Pulse} (h : Answers line pulses) {bits : List Bool}
    {noisy : Nat → Prop} (hlength : bits.length = 5 * 8) (hsends : Sends bits noisy pulses) {k : Nat}
    (hk : ¬ noisy k) : (bitsOf pulses)[k]? = bits[k]? := by
  obtain ⟨shortest, longest, hlow, htells⟩ := hsends
  obtain ⟨hshortest, hlongest⟩ := threshold_bounds h hlow
  have hpulses : (pulses.drop 1).length = bits.length := by
    rw [hlength, List.length_drop, h.length]
    rfl
  by_cases hlt : k < bits.length
  · have hlt' : k < (pulses.drop 1).length := hpulses ▸ hlt
    have htell := htells k _ _ (List.getElem?_eq_getElem hlt) (List.getElem?_eq_getElem hlt') hk
    rw [getElem?_bitsOf, List.getElem?_eq_getElem hlt, List.getElem?_eq_getElem hlt', Option.map_some,
      Option.some.injEq]
    cases hbit : bits[k] with
    | true =>
      rw [hbit, Tells, if_pos rfl] at htell
      exact decide_eq_true (hlongest.trans htell)
    | false =>
      rw [hbit, Tells, if_neg (by decide)] at htell
      exact decide_eq_false (by omega)
  · rw [List.getElem?_eq_none (by rw [length_bitsOf h]; omega), List.getElem?_eq_none (by omega)]

/-! ## A sender -/

/-- The pulses that the comments of the source tell of, in counts of ten microseconds. -/
def pulsesOf (f : Frame) : List Pulse := ⟨8, 8⟩ :: f.bits.map fun bit => ⟨5, if bit then 7 else 2⟩

/-- A pin on which the pulses come. -/
def sender (pin : Fin 32) (pulses : List Pulse) : Hardware :=
  ⟨.mapped, fun i => if Signal.ofPulses 2 pulses i then 1#32 <<< pin.val else 0#32⟩

theorem line_sender (pin : Fin 32) (pulses : List Pulse) :
    line pin (sender pin pulses) = Signal.ofPulses 2 pulses := by
  funext i
  have hpin := pin.isLt
  have hlevel : ((sender pin pulses).levels i).getLsbD pin.val = Signal.ofPulses 2 pulses i := by
    unfold sender
    dsimp only
    cases Signal.ofPulses 2 pulses i with
    | true => rw [if_pos rfl, getLsbD_one_shiftLeft, decide_eq_true hpin, decide_eq_true rfl, Bool.and_true]
    | false => rw [if_neg (by decide), BitVec.getLsbD_zero]
  unfold line
  simp only [pi_mmio_input_ne_zero, hlevel, Bool.decide_eq_true]

theorem answers_sender (pin : Fin 32) {pulses : List Pulse} (hlength : pulses.length = DHT_PULSES)
    (h : ∀ p ∈ pulses, p.low < 9 ∧ p.high < 9) : Answers (line pin (sender pin pulses)) pulses := by
  have hmax : 9 < DHT_MAXCOUNT := by decide
  rw [line_sender, Answers, ← hlength]
  exact Signal.answers_ofPulses (lt_trans (by decide) hmax) fun p hp =>
    ⟨(h p hp).1.trans hmax, (h p hp).2.trans hmax⟩

theorem length_pulsesOf (f : Frame) : (pulsesOf f).length = DHT_PULSES := by
  rw [pulsesOf, List.length_cons, List.length_map, f.length_bits]
  rfl

theorem pulsesOf_counts (f : Frame) : ∀ p ∈ pulsesOf f, p.low < 9 ∧ p.high < 9 := by
  intro p hp
  rcases List.mem_cons.1 hp with rfl | hp
  · decide
  · obtain ⟨bit, -, rfl⟩ := List.mem_map.1 hp
    cases bit <;> decide

/-- The pulses send the frame, also when others come for the noisy ones. -/
theorem sends_of_pulsesOf {f : Frame} {pulses : List Pulse} {noisy : Nat → Prop}
    (hlow : ∀ p ∈ pulses.drop 1, p.low = 5)
    (h : ∀ k, ¬ noisy k → (pulses.drop 1)[k]? = ((pulsesOf f).drop 1)[k]?) : Sends f.bits noisy pulses := by
  refine ⟨5, 5, fun p hp => by rw [hlow p hp]; decide, fun k bit p hbit hp hk => ?_⟩
  rw [h k hk, pulsesOf, List.drop_one, List.tail_cons, List.getElem?_map, hbit, Option.map_some,
    Option.some.injEq] at hp
  subst hp
  cases bit <;> simp [Tells]

theorem low_pulsesOf (f : Frame) : ∀ p ∈ (pulsesOf f).drop 1, p.low = 5 := by
  intro p hp
  rw [pulsesOf, List.drop_one, List.tail_cons] at hp
  obtain ⟨bit, -, rfl⟩ := List.mem_map.1 hp
  rfl

/-! ## Reading frames -/

/-- The line answers with pulses that are the bits of the frame. -/
def Carries (line : Signal) (f : Frame) : Prop := ∃ pulses, Answers line pulses ∧ bitsOf pulses = f.bits

theorem dataOf_eq_bytes {line : Signal} {pulses : List Pulse} (h : Answers line pulses) (f : Frame) :
    dataOf pulses = f.bytes ↔ bitsOf pulses = f.bits := by
  unfold dataOf
  rw [BitWords.collect_iff (length_bitsOf h)]
  exact ⟨fun hbytes => hbytes.2.symm, fun hbits => ⟨f.length_bytes, hbits.symm⟩⟩

theorem length_dataOf {line : Signal} {pulses : List Pulse} (h : Answers line pulses) :
    (dataOf pulses).length = 5 :=
  ((BitWords.collect_iff (length_bitsOf h)).1 rfl).1

theorem flatMap_dataOf {line : Signal} {pulses : List Pulse} (h : Answers line pulses) :
    (dataOf pulses).flatMap BitWords.toBits = bitsOf pulses := ((BitWords.collect_iff (length_bitsOf h)).1 rfl).2

/-- What is made of the pulses. -/
theorem readData_answers (type : Int) {line : Signal} (m : Machine) {pulses : List Pulse}
    (h : Answers line pulses) :
    readData type line m = if sumMatches (dataOf pulses) then
      ⟨DHT_SUCCESS, some (valuesOf type (dataOf pulses)).1, some (valuesOf type (dataOf pulses)).2,
        set_default_priority m⟩
    else ⟨DHT_ERROR_CHECKSUM, some 0, some 0, set_default_priority m⟩ := by
  have hpulses : pulseCounts line = some pulses := Signal.answer_iff.2 h
  unfold readData
  rw [hpulses]

/-- What a read ends with when the line carries a frame, other pulses, or none that are counted. -/
theorem readData_cases (line : Signal) (m : Machine) :
    (∃ f, Carries line f ∧ (∀ f', Carries line f' → f'.bytes = f.bytes) ∧ readData DHT22 line m =
      ⟨DHT_SUCCESS, some f.values.1, some f.values.2, set_default_priority m⟩) ∨
    ((¬ ∃ f, Carries line f) ∧ (∃ pulses, Answers line pulses) ∧ readData DHT22 line m =
      ⟨DHT_ERROR_CHECKSUM, some 0, some 0, set_default_priority m⟩) ∨
    ((¬ ∃ pulses, Answers line pulses) ∧ readData DHT22 line m =
      ⟨DHT_ERROR_TIMEOUT, some 0, some 0, set_default_priority m⟩) := by
  cases hpulses : pulseCounts line with
  | none =>
    refine .inr (.inr ⟨?_, ?_⟩)
    · rintro ⟨pulses, h⟩
      rw [pulseCounts, Signal.answer_iff.2 h] at hpulses
      cases hpulses
    · unfold readData
      rw [hpulses]
  | some pulses =>
    have h : Answers line pulses := Signal.answer_iff.1 hpulses
    have hunique : ∀ f, Carries line f → f.bytes = dataOf pulses := by
      rintro f ⟨pulses', h', hbits⟩
      have hsame : pulses' = pulses := Option.some.inj ((Signal.answer_iff.2 h').symm.trans hpulses)
      rw [← hsame, (dataOf_eq_bytes h' f).2 hbits]
    rw [readData_answers DHT22 m h]
    by_cases hsum : sumMatches (dataOf pulses) = true
    · obtain ⟨f, hf⟩ := (sumMatches_iff (length_dataOf h)).1 hsum
      refine .inl ⟨f, ⟨pulses, h, (dataOf_eq_bytes h f).1 hf.symm⟩,
        fun f' hf' => (hunique f' hf').trans hf.symm, ?_⟩
      rw [if_pos hsum, Frame.values, hf]
    · refine .inr (.inl ⟨?_, ⟨pulses, h⟩, if_neg hsum⟩)
      rintro ⟨f, hf⟩
      exact hsum ((sumMatches_iff (length_dataOf h)).2 ⟨f, hunique f hf⟩)

/-- The call gets at the pins. -/
def Reaches (hw : Hardware) (m : Machine) : Prop := m.gpio.mapped = true ∨ hw.devMem = .mapped

/-- With somewhere to put the values a call fails for the pins or reads the line. -/
theorem pi_dht_read_reaches (type : Int) (pin : Fin 32) (humidity temperature : ℚ) (hw : Hardware) (m : Machine) :
    (¬ Reaches hw m ∧ pi_dht_read type pin (some humidity) (some temperature) hw m =
      ⟨ DHT_ERROR_GPIO, some 0, some 0, m⟩) ∨
    (Reaches hw m ∧ ∃ gpio, gpio.mapped = true ∧ pi_dht_read type pin (some humidity) (some temperature) hw m =
      readData type (line pin hw) ⟨gpio, .max⟩) := by
  rcases pi_dht_read_cases type pin (some humidity) (some temperature) hw m with
    ⟨h, -⟩ | ⟨hmapped, hdev, h⟩ | ⟨hreach, gpio, -, hmapped, h⟩
  · rcases h with h | h <;> cases h
  · refine .inl ⟨?_, h⟩
    rintro (h | h)
    · rw [hmapped] at h
      cases h
    · exact hdev h
  · exact .inr ⟨hreach, gpio, hmapped, h⟩

/-- The result has the values of the frame. -/
structure Reports (f : Frame) (r : Result) : Prop where
  returnCode : r.returnCode = DHT_SUCCESS
  humidity : ∃ humidity, r.humidity = some humidity ∧ |humidity - f.humidity / 10| < 1 / 40
  temperature : ∃ temperature, r.temperature = some temperature ∧ |temperature - f.tenths / 10| < 1 / 40

/-- The result has no values but zeros. -/
structure Fails (code : Int) (r : Result) : Prop where
  returnCode : r.returnCode = code
  humidity : r.humidity = some 0
  temperature : r.temperature = some 0

theorem reports_values (f : Frame) (m : Machine) : Reports f ⟨DHT_SUCCESS, some f.values.1, some f.values.2, m⟩ :=
  ⟨rfl, ⟨_, rfl, f.values_near.1⟩, ⟨_, rfl, f.values_near.2⟩⟩

theorem readData_carries {line : Signal} {f : Frame} (h : Carries line f) (m : Machine) :
    readData DHT22 line m = ⟨DHT_SUCCESS, some f.values.1, some f.values.2, set_default_priority m⟩ := by
  rcases readData_cases line m with ⟨f', -, hunique, hread⟩ | ⟨hnone, -⟩ | ⟨hnone, -⟩
  · rw [hread, Frame.values, Frame.values, hunique f h]
  · exact absurd ⟨f, h⟩ hnone
  · obtain ⟨pulses, hanswers, -⟩ := h
    exact absurd ⟨pulses, hanswers⟩ hnone

theorem carries_of_sends {line : Signal} {f : Frame} {pulses : List Pulse} (h : Answers line pulses)
    (hsends : Sends f.bits (fun _ => False) pulses) : Carries line f := by
  refine ⟨pulses, h, List.ext_getElem? fun k => ?_⟩
  exact getElem?_bitsOf_of_sends h f.length_bits hsends id

/-- **What is sent is what is read.** When a call gets at the pins, a frame that
the line sends in time is reported; whatever is reported is a frame that the
line carries; and without one there are no values, and the code says whether
the pulses were counted. -/
theorem frames_read (pin : Fin 32) (humidity temperature : ℚ) {hw : Hardware} {m : Machine} (h : Reaches hw m) :
    let r := pi_dht_read DHT22 pin (some humidity) (some temperature) hw m
    (∀ f pulses, Answers (line pin hw) pulses → Sends f.bits (fun _ => False) pulses → Reports f r) ∧
    (r.returnCode = DHT_SUCCESS → ∃ f, Carries (line pin hw) f ∧ Reports f r) ∧
    (r.returnCode ≠ DHT_SUCCESS → (¬ ∃ f, Carries (line pin hw) f) ∧
      ((∃ pulses, Answers (line pin hw) pulses) ∧ Fails DHT_ERROR_CHECKSUM r ∨
        (¬ ∃ pulses, Answers (line pin hw) pulses) ∧ Fails DHT_ERROR_TIMEOUT r)) := by
  intro r
  obtain ⟨gpio, hr⟩ : ∃ gpio, r = readData DHT22 (line pin hw) ⟨gpio, .max⟩ := by
    rcases pi_dht_read_reaches DHT22 pin humidity temperature hw m with ⟨hnot, -⟩ | ⟨-, gpio, -, hr⟩
    · exact absurd h hnot
    · exact ⟨gpio, hr⟩
  refine ⟨fun f pulses hanswers hsends => ?_, ?_, ?_⟩
  · rw [hr, readData_carries (carries_of_sends hanswers hsends)]
    exact reports_values f _
  · intro hcode
    rcases readData_cases (line pin hw) ⟨gpio, .max⟩ with ⟨f, hf, -, hread⟩ | ⟨-, -, hread⟩ | ⟨-, hread⟩
    · refine ⟨f, hf, ?_⟩
      rw [hr, hread]
      exact reports_values f _
    · rw [hr, hread] at hcode
      cases hcode
    · rw [hr, hread] at hcode
      cases hcode
  · intro hcode
    rcases readData_cases (line pin hw) ⟨gpio, .max⟩ with
      ⟨f, -, -, hread⟩ | ⟨hnone, hanswers, hread⟩ | ⟨hnone, hread⟩
    · rw [hr, hread] at hcode
      exact absurd rfl hcode
    · refine ⟨hnone, .inl ⟨hanswers, ?_⟩⟩
      rw [hr, hread]
      exact ⟨rfl, rfl, rfl⟩
    · refine ⟨?_, .inr ⟨hnone, ?_⟩⟩
      · rintro ⟨f, pulses, hanswers, -⟩
        exact hnone ⟨pulses, hanswers⟩
      · rw [hr, hread]
        exact ⟨rfl, rfl, rfl⟩

/-- 65.2 percent and 10.1 degrees below zero. -/
def frost : Frame := ⟨652, true, 101, by decide, by decide⟩

def idle : Machine := ⟨⟨false, fun _ => 0#32⟩, .default⟩

theorem frost_read : Reports frost (pi_dht_read DHT22 4 (some 0) (some 0) (sender 4 (pulsesOf frost)) idle) :=
  (frames_read 4 0 0 (.inr rfl)).1 frost (pulsesOf frost)
    (answers_sender 4 (length_pulsesOf frost) (pulsesOf_counts frost))
    (sends_of_pulsesOf (low_pulsesOf frost) fun _ _ => rfl)

/-! ## Noise -/

/-- With noise in one byte, only that byte can be another one. -/
theorem getElem?_dataOf_of_sends {line : Signal} {pulses : List Pulse} (h : Answers line pulses) {f : Frame}
    {i : Nat}
    (hsends : Sends f.bits (fun k => k / 8 = i) pulses) {j : Nat} (hj : j ≠ i) :
    (dataOf pulses)[j]? = f.bytes[j]? := by
  refine BitWords.getElem?_eq_of_bits (length_dataOf h) (fun k hk => ?_) hj
  rw [flatMap_dataOf h]
  exact getElem?_bitsOf_of_sends h f.length_bits hsends hk

theorem dataOf_of_sumMatches {line : Signal} {pulses : List Pulse} (h : Answers line pulses) {f : Frame} {i : Nat}
    (hsends : Sends f.bits (fun k => k / 8 = i) pulses) (hsum : sumMatches (dataOf pulses) = true) :
    dataOf pulses = f.bytes := by
  obtain ⟨f', hf'⟩ := (sumMatches_iff (length_dataOf h)).1 hsum
  rw [← hf']
  by_contra hne
  have hsame : ∀ j, j ≠ i → f'.bytes[j]? = f.bytes[j]? := fun j hj => by
    rw [hf']
    exact getElem?_dataOf_of_sends h hsends hj
  obtain ⟨before, after, d, d', hd, hbytes', hbytes⟩ := BitWords.exists_split (by simp) hsame hne
  exact BitWords.checked_change f'.checked hd hbytes' hbytes f.checked

/-- **Noise in one byte is found.** When only the high parts of the pulses of one
byte are out of time, a call reports the frame that was sent or fails the
check sum: it never reports anything else. -/
theorem noisy_byte (pin : Fin 32) (humidity temperature : ℚ) {hw : Hardware} {m : Machine} (h : Reaches hw m)
    {f : Frame} {pulses : List Pulse} (hanswers : Answers (line pin hw) pulses) {i : Nat}
    (hsends : Sends f.bits (fun k => k / 8 = i) pulses) :
    Reports f (pi_dht_read DHT22 pin (some humidity) (some temperature) hw m) ∨
    Fails DHT_ERROR_CHECKSUM (pi_dht_read DHT22 pin (some humidity) (some temperature) hw m) := by
  rcases pi_dht_read_reaches DHT22 pin humidity temperature hw m with ⟨hnot, -⟩ | ⟨-, gpio, -, hread⟩
  · exact absurd h hnot
  · rw [hread]
    by_cases hsum : sumMatches (dataOf pulses) = true
    · have hdata := dataOf_of_sumMatches hanswers hsends hsum
      rw [readData_carries ⟨pulses, hanswers, (dataOf_eq_bytes hanswers f).1 hdata⟩]
      exact .inl (reports_values f _)
    · rw [readData_answers DHT22 _ hanswers, if_neg hsum]
      exact .inr ⟨rfl, rfl, rfl⟩

/-- The frame, with a long part in place of a short one in its second byte. -/
def noisyFrost : List Pulse := (pulsesOf frost).set 10 ⟨5, 8⟩

theorem noisyFrost_read :
    Reports frost (pi_dht_read DHT22 4 (some 0) (some 0) (sender 4 noisyFrost) idle) ∨
    Fails DHT_ERROR_CHECKSUM (pi_dht_read DHT22 4 (some 0) (some 0) (sender 4 noisyFrost) idle) := by
  have hlength : noisyFrost.length = DHT_PULSES := by rw [noisyFrost, List.length_set, length_pulsesOf]
  have hcounts : ∀ p ∈ noisyFrost, p.low < 9 ∧ p.high < 9 := by
    intro p hp
    rcases List.mem_or_eq_of_mem_set hp with hp | rfl
    · exact pulsesOf_counts frost p hp
    · decide
  have hdrop : noisyFrost.drop 1 = ((pulsesOf frost).drop 1).set 9 ⟨5, 8⟩ := by
    rw [noisyFrost, List.drop_set, if_neg (by decide)]
  have hsends : Sends frost.bits (fun k => k / 8 = 1) noisyFrost := by
    refine sends_of_pulsesOf (fun p hp => ?_) fun k hk => ?_
    · rw [hdrop] at hp
      rcases List.mem_or_eq_of_mem_set hp with hp | rfl
      · exact low_pulsesOf frost p hp
      · rfl
    · rw [hdrop, List.getElem?_set_ne]
      rintro rfl
      exact hk rfl
  exact noisy_byte 4 0 0 (.inr rfl) (answers_sender 4 hlength hcounts) hsends

end PiDhtRead
end SensorSamplor
