import Mathlib.Data.BitVec
import Mathlib.Logic.Function.Basic

/-!
# The GPIO pins of the Raspberry Pi

`pi_mmio` maps the registers of the pins into memory. Three bits of a word
say what a pin does (`Gpio.mode`), ten pins to a word; one word each sets
pins high and low, and one is read for their levels.

The source takes any `int` for a pin. For the pins 0 to 31 the C language
defines all that it does with them, and for these the operations are
modelled; the `mode_` lemmas say what an operation on one pin does to the
modes of all of them. From 32 on, and below 0, a word is shifted by a count
for which C says nothing. Where the word with the mode of a pin is not even in
the page that is mapped, the access to it is one to any other address
(`InPage`).
-/
namespace SensorSamplor

/-- The mapped registers, by their place in words. -/
structure Gpio where
  /-- `pi_mmio_gpio` is not null -/
  mapped : Bool
  words : Nat → BitVec 32

/-- What the operating system does with `/dev/mem`. -/
inductive DevMem where
  | notOpened
  | notMapped
  | mapped
  deriving DecidableEq

namespace PiMmio

def MMIO_SUCCESS : Int := 0

def MMIO_ERROR_DEVMEM : Int := -1

def MMIO_ERROR_MMAP : Int := -2

/-- The size of the page, in bytes. -/
def GPIO_LENGTH : Nat := 4096

/-- The word with the mode of a pin, counted from the start of the page; C rounds
the quotient towards zero.
mirrors sensorsamplor.sensor.temperature/src/main/c/pi_mmio.h:39,46 -/
def register (gpio_number : Int) : Int := gpio_number.tdiv 10

/-- The four bytes of the word are in the page. -/
def InPage (gpio_number : Int) : Prop := 0 ≤ register gpio_number ∧ 4 * register gpio_number + 4 ≤ GPIO_LENGTH

instance (gpio_number : Int) : Decidable (InPage gpio_number) := inferInstanceAs (Decidable (_ ∧ _))

/-- The pins that are in the page: no larger ones, and no negative ones of two digits. -/
theorem inPage_iff {gpio_number : Int} : InPage gpio_number ↔ -10 < gpio_number ∧ gpio_number < 10240 := by
  unfold InPage register GPIO_LENGTH
  rcases Int.le_total 0 gpio_number with hpos | hneg
  · rw [Int.tdiv_eq_ediv_of_nonneg hpos]
    omega
  · have hquotient : gpio_number.tdiv 10 = -(-gpio_number / 10) := by
      rw [← Int.tdiv_eq_ediv_of_nonneg (by omega), Int.neg_tdiv, Int.neg_neg]
    rw [hquotient]
    omega

/-- mirrors sensorsamplor.sensor.temperature/src/main/c/pi_mmio.c:38-55 -/
def pi_mmio_init (devMem : DevMem) (g : Gpio) : Int × Gpio :=
  if g.mapped then (MMIO_SUCCESS, g)
  else
    match devMem with
    | .notOpened => (MMIO_ERROR_DEVMEM, g)
    | .notMapped => (MMIO_ERROR_MMAP, g)
    | .mapped => (MMIO_SUCCESS, { g with mapped := true })

def write (g : Gpio) (place : Nat) (word : BitVec 32) : Gpio :=
  { g with words := Function.update g.words place word }

/-- mirrors sensorsamplor.sensor.temperature/src/main/c/pi_mmio.h:37-40 -/
def pi_mmio_set_input (g : Gpio) (gpio_number : Fin 32) : Gpio :=
  write g (gpio_number / 10) (g.words (gpio_number / 10) &&& ~~~(7#32 <<< (gpio_number.val % 10 * 3)))

/-- mirrors sensorsamplor.sensor.temperature/src/main/c/pi_mmio.h:42-47 -/
def pi_mmio_set_output (g : Gpio) (gpio_number : Fin 32) : Gpio :=
  let g := pi_mmio_set_input g gpio_number
  write g (gpio_number / 10) (g.words (gpio_number / 10) ||| 1#32 <<< (gpio_number.val % 10 * 3))

/-- mirrors sensorsamplor.sensor.temperature/src/main/c/pi_mmio.h:49-51 -/
def pi_mmio_set_high (g : Gpio) (gpio_number : Fin 32) : Gpio := write g 7 (1#32 <<< gpio_number.val)

/-- mirrors sensorsamplor.sensor.temperature/src/main/c/pi_mmio.h:53-55 -/
def pi_mmio_set_low (g : Gpio) (gpio_number : Fin 32) : Gpio := write g 10 (1#32 <<< gpio_number.val)

/-- `word` is what word 13 holds at the time of the read.
mirrors sensorsamplor.sensor.temperature/src/main/c/pi_mmio.h:57-59 -/
def pi_mmio_input (word : BitVec 32) (gpio_number : Fin 32) : BitVec 32 := word &&& (1#32 <<< gpio_number.val)

@[simp] theorem write_words_self (g : Gpio) (place : Nat) (word : BitVec 32) :
    (write g place word).words place = word := by simp [write]

theorem write_words_of_ne (g : Gpio) {place place' : Nat} (word : BitVec 32) (h : place' ≠ place) :
    (write g place word).words place' = g.words place' := by simp [write, h]

theorem getLsbD_one_shiftLeft (k j : Nat) : (1#32 <<< k).getLsbD j = (decide (j < 32) && decide (j = k)) := by
  rw [BitVec.getLsbD_shiftLeft, BitVec.getLsbD_one]
  by_cases hj : j < 32
  · by_cases hk : j < k
    · have hne : ¬ j = k := by omega
      simp [hj, hk, hne]
    · have hiff : j - k = 0 ↔ j = k := by omega
      simp [hj, hk, hiff]
  · simp [hj]

theorem getLsbD_seven_shiftLeft (k j : Nat) :
    (7#32 <<< k).getLsbD j = (decide (j < 32) && decide (k ≤ j ∧ j < k + 3)) := by
  have hseven : ∀ i, (7#32).getLsbD i = (decide (i < 32) && decide (i < 3)) := by
    intro i
    rw [BitVec.getLsbD_ofNat, Nat.testBit_two_pow_sub_one 3 i]
  rw [BitVec.getLsbD_shiftLeft, hseven]
  by_cases hj : j < 32
  · by_cases hk : j < k
    · have hnot : ¬ (k ≤ j ∧ j < k + 3) := by omega
      simp [hj, hk, hnot]
    · have hle : k ≤ j := by omega
      have hiff : j - k < 3 ↔ j < k + 3 := by omega
      have hsub : j - k < 32 := by omega
      simp [hj, hk, hiff, hle, hsub]
  · simp [hj]

/-- A read of a pin is not zero when the pin is high. -/
theorem pi_mmio_input_ne_zero (word : BitVec 32) (pin : Fin 32) :
    pi_mmio_input word pin ≠ 0#32 ↔ word.getLsbD pin.val = true := by
  have hread : ∀ j, (pi_mmio_input word pin).getLsbD j = (word.getLsbD j && decide (j = pin.val)) := by
    intro j
    rw [pi_mmio_input, BitVec.getLsbD_and, getLsbD_one_shiftLeft]
    by_cases hj : j < 32
    · simp only [hj, decide_true, Bool.true_and]
    · rw [BitVec.getLsbD_of_ge word j (by omega), Bool.false_and, Bool.false_and]
  constructor
  · intro hne
    by_contra hlow
    refine hne (BitVec.eq_of_getLsbD_eq fun j _ => ?_)
    rw [hread, BitVec.getLsbD_zero]
    by_cases hj : j = pin.val
    · rw [hj, Bool.eq_false_iff.2 hlow, Bool.false_and]
    · rw [decide_eq_false hj, Bool.and_false]
  · intro hhigh hzero
    have hbit := hread pin.val
    rw [hzero, BitVec.getLsbD_zero, hhigh, decide_eq_true rfl] at hbit
    cases hbit

end PiMmio

open PiMmio

/-! ## Modes -/

/-- What a pin does: 0 for an input, 1 for an output. -/
def Gpio.mode (g : Gpio) (pin : Fin 32) : BitVec 3 :=
  (g.words (pin / 10)).extractLsb' (pin.val % 10 * 3) 3

theorem Gpio.getLsbD_mode (g : Gpio) (pin : Fin 32) {i : Nat} (hi : i < 3) :
    (g.mode pin).getLsbD i = (g.words (pin / 10)).getLsbD (pin.val % 10 * 3 + i) := by
  rw [Gpio.mode, BitVec.getLsbD_extractLsb', decide_eq_true hi, Bool.true_and]

/-- The places of the modes of two pins in one word are apart. -/
theorem place_ne {pin q : Fin 32} (hne : q ≠ pin) (hword : q.val / 10 = pin.val / 10) {i : Nat} (hi : i < 3) :
    ¬ (pin.val % 10 * 3 ≤ q.val % 10 * 3 + i ∧ q.val % 10 * 3 + i < pin.val % 10 * 3 + 3) := by
  have hval : q.val ≠ pin.val := fun h => hne (Fin.ext h)
  omega

theorem mode_write_of_ne (g : Gpio) {place : Nat} (word : BitVec 32) {q : Fin 32} (h : q.val / 10 ≠ place) :
    (write g place word).mode q = g.mode q := by
  rw [Gpio.mode, write_words_of_ne g word h, Gpio.mode]

theorem mode_set_input (g : Gpio) (pin q : Fin 32) :
    (pi_mmio_set_input g pin).mode q = if q = pin then 0#3 else g.mode q := by
  by_cases hword : q.val / 10 = pin.val / 10
  · apply BitVec.eq_of_getLsbD_eq
    intro i hi
    have hj : q.val % 10 * 3 + i < 32 := by omega
    rw [Gpio.getLsbD_mode _ _ hi, pi_mmio_set_input, hword, write_words_self, BitVec.getLsbD_and,
      BitVec.getLsbD_not, getLsbD_seven_shiftLeft, decide_eq_true hj, Bool.true_and, Bool.true_and]
    by_cases hq : q = pin
    · subst hq
      rw [if_pos rfl, decide_eq_true (by omega), Bool.not_true, Bool.and_false, BitVec.getLsbD_zero]
    · rw [if_neg hq, Gpio.getLsbD_mode _ _ hi, hword, decide_eq_false (place_ne hq hword hi), Bool.not_false,
        Bool.and_true]
  · have hq : q ≠ pin := fun h => hword (by rw [h])
    rw [pi_mmio_set_input, mode_write_of_ne g _ hword, if_neg hq]

theorem mode_set_output (g : Gpio) (pin q : Fin 32) :
    (pi_mmio_set_output g pin).mode q = if q = pin then 1#3 else g.mode q := by
  have hinput := mode_set_input g pin q
  by_cases hword : q.val / 10 = pin.val / 10
  · apply BitVec.eq_of_getLsbD_eq
    intro i hi
    have hj : q.val % 10 * 3 + i < 32 := by omega
    -- the mode as an input, and the lowest bit of the pin's own mode
    have hbit : ((pi_mmio_set_output g pin).mode q).getLsbD i = (((pi_mmio_set_input g pin).mode q).getLsbD i ||
        decide (q.val % 10 * 3 + i = pin.val % 10 * 3)) := by
      rw [Gpio.getLsbD_mode _ _ hi, Gpio.getLsbD_mode _ _ hi, pi_mmio_set_output, hword]
      rw [write_words_self, BitVec.getLsbD_or, getLsbD_one_shiftLeft, decide_eq_true hj, Bool.true_and]
    rw [hbit, hinput]
    by_cases hq : q = pin
    · subst hq
      rw [if_pos rfl, if_pos rfl, BitVec.getLsbD_zero, Bool.false_or]
      have hone : ∀ i < 3, (1#3).getLsbD i = decide (i = 0) := by decide
      rw [hone i hi]
      exact decide_eq_decide.2 (by omega)
    · have hne : ¬ q.val % 10 * 3 + i = pin.val % 10 * 3 := fun h => place_ne hq hword hi (by omega)
      rw [if_neg hq, if_neg hq, decide_eq_false hne, Bool.or_false]
  · have hq : q ≠ pin := fun h => hword (by rw [h])
    rw [if_neg hq] at hinput ⊢
    rw [pi_mmio_set_output, mode_write_of_ne _ _ hword, hinput]

@[simp] theorem mode_set_high (g : Gpio) (pin q : Fin 32) : (pi_mmio_set_high g pin).mode q = g.mode q :=
  mode_write_of_ne g _ (by omega)

@[simp] theorem mode_set_low (g : Gpio) (pin q : Fin 32) : (pi_mmio_set_low g pin).mode q = g.mode q :=
  mode_write_of_ne g _ (by omega)

end SensorSamplor
