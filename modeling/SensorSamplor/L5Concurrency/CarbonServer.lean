import Mathlib.Data.List.Flatten
import Mathlib.Data.List.Perm.Subperm
import SensorSamplor.Core.Splitting
import SensorSamplor.Core.Threads
import SensorSamplor.L3Receivers.GraphiteSampleReceiver
import SensorSamplor.L3Receivers.SampleReceiverManager

/-!
# Concurrent calls of the Graphite receiver

Any number of calls of one `GraphiteSampleReceiver`, each on its own thread
and each `processSample` with its own socket, in the steps of
`sendToCarbon`: `new Socket`, `getOutputStream`, one `println` for each line
and the three `gracefullyClose` of the `finally` block. The network answers
each step as it likes (`Answer`).

* A `PrintWriter` throws nothing: what a `println` could not send is lost
  without notice, and the loop goes on. A connection on which a write has
  failed carries nothing any more.
* A port that is none leaves the method with an exception that no `catch`
  clause names, after the `finally` block.

`forwards`: in every interleaving, the server reads on each connection
nothing but the first so many messages of one sample, also when it is cut
off in the middle of a line; a call that has ended has closed what it had
opened; and it threw exactly for a null value or a port that is none.

Characters stand for their bytes. That the server reads lines is the message
format which the class documents.
-/
namespace SensorSamplor.CarbonServer

open SensorSamplor.Core SensorSamplor.Core.JavaText SensorSamplor.Core.Splitting GraphiteSampleReceiver

variable {R : Type}

/-- The three things that `sendToCarbon` closes, in this order. -/
inductive Resource where
  | printWriter
  | outputStream
  | socket
  deriving DecidableEq

/-- A connection to the server. No step reads `sample`, for which it was opened. -/
structure Connection where
  sample : Sample
  received : List Char
  broken : Bool
  closes : List Resource

/-- What the network does in a step; of a text that could not be written,
`sent` characters have left. -/
inductive Answer where
  | succeeds
  | unknownHost
  | ioException (sent : Nat)

inductive Thrown where
  | throwable (e : Throwable)
  | illegalArgumentException (message : String)

inductive PC where
  | formatting
  | connecting (payloadLines : List String)
  | openingStream (payloadLines : List String)
  | printing (payloadLines : List String)
  | closing (c : Resource) (thrown : Option Thrown)
  | returned
  | threw (e : Thrown)

/-- A call with its local variables, which refer to connections. -/
structure Thread (R : Type) where
  call : ReceiverCall R
  socket : Option Nat
  outputStream : Option Nat
  printWriter : Option Nat
  pc : PC

def Thread.reference (t : Thread R) : Resource → Option Nat
  | .printWriter => t.printWriter
  | .outputStream => t.outputStream
  | .socket => t.socket

/-- A text is written, up to the `cut` if there is one. -/
def Connection.write (text : List Char) (cut : Option Nat) (c : Connection) : Connection :=
  if c.broken then c
  else match cut with
    | none => { c with received := c.received ++ text }
    | some sent => { c with received := c.received ++ text.take sent, broken := true }

def Connection.close (r : Resource) (c : Connection) : Connection := { c with closes := c.closes ++ [r] }

/-- A null reference is left alone. -/
def onConnection (reference : Option Nat) (f : Connection → Connection) (connections : List Connection) :
    List Connection :=
  match reference with
  | none => connections
  | some j => connections.modify j f

/-- The next `gracefullyClose`, and after the last one what the `try` block left. -/
def afterClosing (thrown : Option Thrown) : Resource → PC
  | .printWriter => .closing .outputStream thrown
  | .outputStream => .closing .socket thrown
  | .socket => thrown.elim .returned .threw

/-- The check of `InetSocketAddress`. -/
def PortInRange (port : Int) : Prop := 0 ≤ port ∧ port ≤ 65535

instance (port : Int) : Decidable (PortInRange port) := inferInstanceAs (Decidable (_ ∧ _))

def portOutOfRange (port : Int) : Thrown := .illegalArgumentException ("port out of range:" ++ port.repr)

section
variable (objectToString : List UInt8 → String) (lineSeparator : String) (r : GraphiteSampleReceiver)

/-- mirrors receiver.graphite/receiver/graphite/GraphiteSampleReceiver.java:51-99,129-132 -/
def body (_ : Nat) (connections : List Connection) (t : Thread R) (answer : Answer) :
    Option (List Connection × Thread R) :=
  match t.pc with
  | .formatting =>
    match t.call.method with
    | .processError => some (connections, { t with pc := .returned })
    | .processSample =>
      match graphiteFormatOf objectToString t.call.sample with
      | .ok payloadLines => some (connections, { t with pc := .connecting payloadLines })
      | .error e => some (connections, { t with pc := .threw (.throwable e) })
  | .connecting payloadLines =>
    if PortInRange r.carbonServerPort then
      match answer with
      | .succeeds => some (connections ++ [⟨t.call.sample, [], false, []⟩],
          { t with socket := some connections.length, pc := .openingStream payloadLines })
      | .unknownHost => some (connections, { t with pc := .closing .printWriter none })
      | .ioException _ => some (connections, { t with pc := .closing .printWriter none })
    else some (connections, { t with pc := .closing .printWriter (some (portOutOfRange r.carbonServerPort)) })
  | .openingStream payloadLines =>
    match answer with
    | .succeeds => some (connections,
        { t with outputStream := t.socket, printWriter := t.socket, pc := .printing payloadLines })
    | .unknownHost => none
    | .ioException _ => some (connections, { t with pc := .closing .printWriter none })
  | .printing [] => some (connections, { t with pc := .closing .printWriter none })
  | .printing (line :: payloadLines) =>
    let println cut := some (onConnection t.printWriter (.write (line ++ lineSeparator).toList cut) connections,
      { t with pc := .printing payloadLines })
    match answer with
    | .succeeds => println none
    | .unknownHost => none
    | .ioException sent => println (some sent)
  | .closing c thrown =>
    some (onConnection (t.reference c) (.close c) connections, { t with pc := afterClosing thrown c })
  | .returned => none
  | .threw _ => none

/-- One started thread for each call. -/
def start (calls : List (ReceiverCall R)) : Pool (List Connection) (Thread R) :=
  ⟨[], calls.map (⟨·, none, none, none, .formatting⟩)⟩

def lts (calls : List (ReceiverCall R)) : LTS (Pool (List Connection) (Thread R)) (Nat × Answer) :=
  Pool.interleave (· = start calls) (body objectToString lineSeparator r)

end

/-! ## What the server reads -/

/-- The metrics in a text: the fields of its complete lines. -/
def metricsIn (text : List Char) : List (List String) :=
  (complete '\n' text).map fun line => fields (String.ofList line)

/-- The text that `println` makes of the lines. -/
def printed (lineSeparator : String) (lines : List String) : List Char :=
  lines.flatMap fun line => (line ++ lineSeparator).toList

theorem printed_newline (lines : List String) :
    printed "\n" lines = terminated '\n' (lines.map String.toList) := by
  simp [printed, terminated, List.flatMap_map]

theorem metricsIn_isPrefix {text text' : List Char} (h : text <+: text') : metricsIn text <+: metricsIn text' :=
  (complete_isPrefix '\n' h).map _

theorem metricsIn_printed {objectToString : List UInt8 → String} {sample : Sample}
    (h : Sendable objectToString sample) {lines : List String}
    (hlines : graphiteFormatOf objectToString sample = .ok lines) :
    metricsIn (printed "\n" lines) = messagesOf objectToString sample := by
  obtain ⟨hsingle, hfields⟩ := payload_of_sendable h hlines
  have hfree : ∀ part ∈ lines.map String.toList, '\n' ∉ part := by
    intro part hpart
    obtain ⟨line, hline, rfl⟩ := List.mem_map.1 hpart
    exact (hsingle line hline).1
  have hcomplete := complete_terminated_append hfree []
  rw [complete_of_not_mem List.not_mem_nil, List.append_nil, List.append_nil] at hcomplete
  rw [metricsIn, printed_newline, hcomplete, ← hfields, List.map_map]
  simp [Function.comp_def]

variable {objectToString : List UInt8 → String} {lineSeparator : String} {r : GraphiteSampleReceiver}
  {calls : List (ReceiverCall R)}

/-! ## One step -/

/-- The call is of `processSample`, with these lines to send. -/
def Sends (objectToString : List UInt8 → String) (call : ReceiverCall R) (lines : List String) : Prop :=
  call.method = .processSample ∧ graphiteFormatOf objectToString call.sample = .ok lines

/-- The steps of a call, by its place in the method. -/
inductive CallStep (objectToString : List UInt8 → String) (lineSeparator : String) (r : GraphiteSampleReceiver)
    (cs : List Connection) (t : Thread R) : List Connection → Thread R → Prop
  | ignore (hpc : t.pc = .formatting) (hmethod : t.call.method = .processError) :
      CallStep objectToString lineSeparator r cs t cs { t with pc := .returned }
  | format (lines : List String) (hpc : t.pc = .formatting) (hlines : Sends objectToString t.call lines) :
      CallStep objectToString lineSeparator r cs t cs { t with pc := .connecting lines }
  | noFormat (e : Throwable) (hpc : t.pc = .formatting) (hmethod : t.call.method = .processSample)
      (he : graphiteFormatOf objectToString t.call.sample = .error e) :
      CallStep objectToString lineSeparator r cs t cs { t with pc := .threw (.throwable e) }
  | noPort (lines : List String) (hpc : t.pc = .connecting lines) (hport : ¬ PortInRange r.carbonServerPort) :
      CallStep objectToString lineSeparator r cs t cs
        { t with pc := .closing .printWriter (some (portOutOfRange r.carbonServerPort)) }
  | connect (lines : List String) (hpc : t.pc = .connecting lines) (hport : PortInRange r.carbonServerPort) :
      CallStep objectToString lineSeparator r cs t (cs ++ [⟨t.call.sample, [], false, []⟩])
        { t with socket := some cs.length, pc := .openingStream lines }
  | noConnection (lines : List String) (hpc : t.pc = .connecting lines)
      (hport : PortInRange r.carbonServerPort) :
      CallStep objectToString lineSeparator r cs t cs { t with pc := .closing .printWriter none }
  | openStream (lines : List String) (hpc : t.pc = .openingStream lines) :
      CallStep objectToString lineSeparator r cs t cs
        { t with outputStream := t.socket, printWriter := t.socket, pc := .printing lines }
  | noStream (lines : List String) (hpc : t.pc = .openingStream lines) :
      CallStep objectToString lineSeparator r cs t cs { t with pc := .closing .printWriter none }
  | allPrinted (hpc : t.pc = .printing []) :
      CallStep objectToString lineSeparator r cs t cs { t with pc := .closing .printWriter none }
  | println (line : String) (lines : List String) (cut : Option Nat) (hpc : t.pc = .printing (line :: lines)) :
      CallStep objectToString lineSeparator r cs t
        (onConnection t.printWriter (.write (line ++ lineSeparator).toList cut) cs)
        { t with pc := .printing lines }
  | close (c : Resource) (thrown : Option Thrown) (hpc : t.pc = .closing c thrown) :
      CallStep objectToString lineSeparator r cs t (onConnection (t.reference c) (.close c) cs)
        { t with pc := afterClosing thrown c }

theorem body_cases {i : Nat} {cs cs' : List Connection} {t t' : Thread R} {a : Answer}
    (h : body objectToString lineSeparator r i cs t a = some (cs', t')) :
    CallStep objectToString lineSeparator r cs t cs' t' := by
  unfold body at h
  split at h
  · rename_i hpc
    split at h
    · rename_i hmethod
      cases h
      exact .ignore hpc hmethod
    · rename_i hmethod
      split at h
      · rename_i lines hlines
        cases h
        exact .format lines hpc ⟨hmethod, hlines⟩
      · rename_i e he
        cases h
        exact .noFormat e hpc hmethod he
  · rename_i lines hpc
    split at h
    · rename_i hport
      cases a with
      | succeeds => cases h; exact .connect lines hpc hport
      | unknownHost => cases h; exact .noConnection lines hpc hport
      | ioException sent => cases h; exact .noConnection lines hpc hport
    · rename_i hport
      cases h
      exact .noPort lines hpc hport
  · rename_i lines hpc
    cases a with
    | succeeds => cases h; exact .openStream lines hpc
    | unknownHost => cases h
    | ioException sent => cases h; exact .noStream lines hpc
  · rename_i hpc
    cases h
    exact .allPrinted hpc
  · rename_i line lines hpc
    cases a with
    | succeeds => cases h; exact .println line lines none hpc
    | unknownHost => cases h
    | ioException sent => cases h; exact .println line lines (some sent) hpc
  · rename_i c thrown hpc
    cases h
    exact .close c thrown hpc
  · cases h
  · cases h

/-! ## The local variables -/

/-- What holds of a call alone: which of its variables are set, and why it throws. -/
def Thread.Sound (objectToString : List UInt8 → String) (r : GraphiteSampleReceiver) (t : Thread R) : Prop :=
  t.outputStream = t.printWriter ∧ (t.printWriter = none ∨ t.printWriter = t.socket) ∧
  match t.pc with
  | .formatting => t.socket = none
  | .connecting lines => t.socket = none ∧ Sends objectToString t.call lines
  | .openingStream lines => t.socket.isSome = true ∧ t.printWriter = none ∧
      PortInRange r.carbonServerPort ∧ Sends objectToString t.call lines
  | .printing _ => t.socket.isSome = true ∧ t.printWriter = t.socket ∧
      PortInRange r.carbonServerPort ∧ ∃ lines, Sends objectToString t.call lines
  | .closing _ thrown => (∃ lines, Sends objectToString t.call lines) ∧
      ((thrown = none ∧ PortInRange r.carbonServerPort) ∨
        (thrown.isSome = true ∧ ¬ PortInRange r.carbonServerPort ∧ t.socket = none))
  | .returned => (t.call.method = .processError ∧ t.socket = none) ∨
      ((∃ lines, Sends objectToString t.call lines) ∧ PortInRange r.carbonServerPort)
  | .threw _ => t.call.method = .processSample ∧ t.socket = none ∧
      ((∃ e, graphiteFormatOf objectToString t.call.sample = .error e) ∨ ¬ PortInRange r.carbonServerPort)

theorem CallStep.sound {cs cs' : List Connection} {t t' : Thread R}
    (hs : CallStep objectToString lineSeparator r cs t cs' t') (h : t.Sound objectToString r) :
    t'.Sound objectToString r := by
  obtain ⟨hout, hwriter, hplace⟩ := h
  cases hs with
  | ignore hpc hmethod =>
    rw [hpc] at hplace
    exact ⟨hout, hwriter, .inl ⟨hmethod, hplace⟩⟩
  | format lines hpc hlines =>
    rw [hpc] at hplace
    exact ⟨hout, hwriter, hplace, hlines⟩
  | noFormat e hpc hmethod he =>
    rw [hpc] at hplace
    exact ⟨hout, hwriter, hmethod, hplace, .inl ⟨e, he⟩⟩
  | noPort lines hpc hport =>
    rw [hpc] at hplace
    exact ⟨hout, hwriter, ⟨lines, hplace.2⟩, .inr ⟨rfl, hport, hplace.1⟩⟩
  | connect lines hpc hport =>
    rw [hpc] at hplace
    have hnone : t.printWriter = none := hwriter.elim id fun hw => hw.trans hplace.1
    exact ⟨hout, .inl hnone, rfl, hnone, hport, hplace.2⟩
  | noConnection lines hpc hport =>
    rw [hpc] at hplace
    exact ⟨hout, hwriter, ⟨lines, hplace.2⟩, .inl ⟨rfl, hport⟩⟩
  | openStream lines hpc =>
    rw [hpc] at hplace
    exact ⟨rfl, .inr rfl, hplace.1, rfl, hplace.2.2.1, lines, hplace.2.2.2⟩
  | noStream lines hpc =>
    rw [hpc] at hplace
    exact ⟨hout, hwriter, ⟨lines, hplace.2.2.2⟩, .inl ⟨rfl, hplace.2.2.1⟩⟩
  | allPrinted hpc =>
    rw [hpc] at hplace
    exact ⟨hout, hwriter, hplace.2.2.2, .inl ⟨rfl, hplace.2.2.1⟩⟩
  | println line lines cut hpc =>
    rw [hpc] at hplace
    exact ⟨hout, hwriter, hplace⟩
  | close c thrown hpc =>
    rw [hpc] at hplace
    refine ⟨hout, hwriter, ?_⟩
    cases c with
    | printWriter => exact hplace
    | outputStream => exact hplace
    | socket =>
      obtain ⟨⟨lines, hlines⟩, ⟨rfl, hport⟩ | ⟨hthrown, hport, hsocket⟩⟩ := hplace
      · exact .inr ⟨⟨lines, hlines⟩, hport⟩
      · obtain ⟨e, rfl⟩ := Option.isSome_iff_exists.1 hthrown
        exact ⟨hlines.1, hsocket, .inr hport⟩

/-! ## A call and its connection -/

/-- The lines that are still to be printed, once there is a stream. -/
def Thread.rest (t : Thread R) : Option (List String) :=
  match t.pc with
  | .openingStream lines => some lines
  | .printing lines => some lines
  | _ => if t.printWriter.isSome then some [] else none

/-- What `gracefullyClose` has been called with. -/
def PC.passed : PC → List Resource
  | .closing .outputStream _ => [.printWriter]
  | .closing .socket _ => [.printWriter, .outputStream]
  | .returned => [.printWriter, .outputStream, .socket]
  | .threw _ => [.printWriter, .outputStream, .socket]
  | _ => []

/-- What the call has closed: a null reference is passed over. -/
def Thread.closed (t : Thread R) : List Resource := t.pc.passed.filter fun c => (t.reference c).isSome

theorem passed_afterClosing (thrown : Option Thrown) (c : Resource) :
    (afterClosing thrown c).passed = (PC.closing c thrown).passed ++ [c] := by
  cases c with
  | printWriter => rfl
  | outputStream => rfl
  | socket => cases thrown <;> rfl

/-- The connection carries the lines of the call, as far as they are printed
and nothing went wrong. -/
structure Serves (objectToString : List UInt8 → String) (lineSeparator : String) (t : Thread R)
    (c : Connection) : Prop where
  sample : c.sample = t.call.sample
  closes : c.closes = t.closed
  lines : ∃ lines, Sends objectToString t.call lines ∧ c.received <+: printed lineSeparator lines ∧
    (c.broken = false → ∀ rest, t.rest = some rest →
      c.received ++ printed lineSeparator rest = printed lineSeparator lines)

/-- A text that is written comes behind what has come, or is lost. -/
theorem write_cases (text : List Char) (cut : Option Nat) (c : Connection) :
    (c.broken = true ∧ c.write text cut = c) ∨
    (c.broken = false ∧ cut = none ∧ c.write text cut = { c with received := c.received ++ text }) ∨
    (c.broken = false ∧ ∃ sent, c.write text cut =
      { c with received := c.received ++ text.take sent, broken := true }) := by
  unfold Connection.write
  cases hbroken : c.broken with
  | true => exact .inl ⟨rfl, rfl⟩
  | false =>
    cases cut with
    | none => exact .inr (.inl ⟨rfl, rfl, rfl⟩)
    | some sent => exact .inr (.inr ⟨rfl, sent, rfl⟩)

theorem Serves.println {t : Thread R} {c : Connection} (h : Serves objectToString lineSeparator t c)
    {line : String} {rest : List String} (hpc : t.pc = .printing (line :: rest)) (cut : Option Nat) :
    Serves objectToString lineSeparator { t with pc := .printing rest }
      (c.write (line ++ lineSeparator).toList cut) := by
  obtain ⟨hsample, hcloses, lines, hlines, hprefix, hrest⟩ := h
  have hclosed : c.closes = Thread.closed { t with pc := .printing rest } := by
    rw [hcloses, Thread.closed, hpc]
    rfl
  have hsplit : printed lineSeparator (line :: rest) =
      (line ++ lineSeparator).toList ++ printed lineSeparator rest := List.flatMap_cons ..
  have hopen : c.broken = false → c.received ++ (line ++ lineSeparator).toList ++ printed lineSeparator rest =
      printed lineSeparator lines := by
    intro hbroken
    rw [List.append_assoc, ← hsplit]
    exact hrest hbroken _ (by rw [Thread.rest, hpc])
  obtain ⟨hbroken, heq⟩ | ⟨hbroken, -, heq⟩ | ⟨hbroken, sent, heq⟩ :=
    write_cases (line ++ lineSeparator).toList cut c
  · rw [heq]
    exact ⟨hsample, hclosed, lines, hlines, hprefix, fun hb => absurd (hbroken.symm.trans hb) (by decide)⟩
  · rw [heq]
    refine ⟨hsample, hclosed, lines, hlines, ?_, fun _ rest' hrest' => ?_⟩
    · rw [← hopen hbroken]
      exact List.prefix_append ..
    · obtain rfl := Option.some.inj hrest'
      exact hopen hbroken
  · rw [heq]
    refine ⟨hsample, hclosed, lines, hlines, ?_, fun hb => Bool.noConfusion hb⟩
    -- the cut-off text is a first part of the text
    rw [← hopen hbroken, List.append_assoc]
    exact (List.prefix_append_right_inj _).2 ((List.take_prefix ..).trans (List.prefix_append ..))

theorem closed_afterClosing {t : Thread R} {res : Resource} {thrown : Option Thrown}
    (hpc : t.pc = .closing res thrown) : Thread.closed { t with pc := afterClosing thrown res } =
      t.closed ++ if (t.reference res).isSome then [res] else [] := by
  show List.filter (fun c => (t.reference c).isSome) (afterClosing thrown res).passed = _
  rw [passed_afterClosing, List.filter_append, Thread.closed, hpc]
  cases hres : t.reference res <;> simp [hres]

theorem rest_afterClosing {t : Thread R} {res : Resource} {thrown : Option Thrown}
    (hpc : t.pc = .closing res thrown) : Thread.rest { t with pc := afterClosing thrown res } = t.rest := by
  unfold Thread.rest
  rw [hpc]
  cases res with
  | printWriter => rfl
  | outputStream => rfl
  | socket => cases thrown <;> rfl

theorem Serves.close {t : Thread R} {c : Connection} (h : Serves objectToString lineSeparator t c)
    {res : Resource} {thrown : Option Thrown} (hpc : t.pc = .closing res thrown) :
    Serves objectToString lineSeparator { t with pc := afterClosing thrown res }
      (if (t.reference res).isSome then c.close res else c) := by
  obtain ⟨hsample, hcloses, lines, hlines, hprefix, hrest⟩ := h
  have hclosed := closed_afterClosing hpc
  have hrest' : c.broken = false → ∀ rest, Thread.rest { t with pc := afterClosing thrown res } = some rest →
      c.received ++ printed lineSeparator rest = printed lineSeparator lines := by
    rw [rest_afterClosing hpc]
    exact hrest
  cases hres : (t.reference res).isSome with
  | true =>
    refine ⟨hsample, ?_, lines, hlines, hprefix, hrest'⟩
    rw [hclosed, hres, ← hcloses]
    rfl
  | false =>
    refine ⟨hsample, ?_, lines, hlines, hprefix, hrest'⟩
    rw [hclosed, hres, ← hcloses]
    simp

/-- A step that leaves the connection alone. -/
theorem Serves.quiet {t t' : Thread R} {c : Connection} (h : Serves objectToString lineSeparator t c)
    (hcall : t'.call = t.call) (hclosed : t'.closed = t.closed)
    (hrest : ∀ rest, t'.rest = some rest → t.rest = some rest) :
    Serves objectToString lineSeparator t' c := by
  obtain ⟨hsample, hcloses, lines, hlines, hprefix, hlast⟩ := h
  refine ⟨by rw [hsample, hcall], by rw [hcloses, hclosed], lines, ?_, hprefix, fun hb rest hr => ?_⟩
  · rw [Sends, hcall]
    exact hlines
  · exact hlast hb rest (hrest rest hr)

/-! ## All calls -/

/-- The sample for which the call has opened a connection. -/
def Thread.opened (t : Thread R) : List Sample := if t.socket.isSome then [t.call.sample] else []

/-- Each call has a connection of its own, and there are no others. -/
structure Inv (objectToString : List UInt8 → String) (lineSeparator : String) (r : GraphiteSampleReceiver)
    (calls : List (ReceiverCall R)) (st : Pool (List Connection) (Thread R)) : Prop where
  threads : st.threads.map (·.call) = calls
  sound : ∀ t ∈ st.threads, t.Sound objectToString r
  serves : ∀ (i : Nat) (t : Thread R) (j : Nat), st.threads[i]? = some t → t.socket = some j →
    ∃ c, st.shared[j]? = some c ∧ Serves objectToString lineSeparator t c
  alone : ∀ (i i' : Nat) (t t' : Thread R) (j : Nat), st.threads[i]? = some t → st.threads[i']? = some t' →
    t.socket = some j → t'.socket = some j → i = i'
  served : ∀ (j : Nat) (c : Connection), st.shared[j]? = some c → ∃ t ∈ st.threads, t.socket = some j
  samples : (st.shared.map (·.sample)).Perm (st.threads.flatMap Thread.opened)

theorem inv_start : Inv objectToString lineSeparator r calls (start calls) where
  threads := by simp [start, Function.comp_def]
  sound := by
    intro t ht
    obtain ⟨call, -, rfl⟩ := List.mem_map.1 ht
    exact ⟨rfl, .inl rfl, rfl⟩
  serves := by
    intro i t j ht hsocket
    obtain ⟨call, -, rfl⟩ := List.mem_map.1 (List.mem_of_getElem? ht)
    cases hsocket
  alone := by
    intro i i' t t' j ht ht' hsocket
    obtain ⟨call, -, rfl⟩ := List.mem_map.1 (List.mem_of_getElem? ht)
    cases hsocket
  served := by
    intro j c hc
    cases hc
  samples := by
    have hnone : (start calls).threads.flatMap Thread.opened = [] := by
      refine List.flatMap_eq_nil_iff.2 fun t ht => ?_
      obtain ⟨call, -, rfl⟩ := List.mem_map.1 ht
      rfl
    rw [hnone]
    exact List.Perm.refl []

@[simp] theorem getElem?_onConnection (reference : Option Nat) (f : Connection → Connection)
    (cs : List Connection) (j : Nat) : (onConnection reference f cs)[j]? =
      cs[j]?.map fun c => if reference = some j then f c else c := by
  cases reference with
  | none => simp [onConnection]
  | some i => simp [onConnection, List.getElem?_modify]

theorem map_onConnection {α : Type} (g : Connection → α) {f : Connection → Connection}
    (hf : ∀ c, g (f c) = g c) (reference : Option Nat) (cs : List Connection) :
    (onConnection reference f cs).map g = cs.map g := by
  refine List.ext_getElem? fun j => ?_
  rw [List.getElem?_map, List.getElem?_map, getElem?_onConnection, Option.map_map]
  refine congrArg (Option.map · cs[j]?) (funext fun c => ?_)
  by_cases hj : reference = some j
  · simp [hj, hf]
  · simp [hj]

/-- A step of a call on its own connection, if it has one. -/
theorem Inv.own {st : Pool (List Connection) (Thread R)} (h : Inv objectToString lineSeparator r calls st)
    {i : Nat} {t t' : Thread R} (ht : st.threads[i]? = some t) (hsound : t'.Sound objectToString r)
    (hcall : t'.call = t.call) (hsocket : t'.socket = t.socket) {reference : Option Nat}
    (hreference : reference = t.socket) {f : Connection → Connection} (hf : ∀ c, (f c).sample = c.sample)
    (hserves : t.socket.isSome = true → ∀ c, Serves objectToString lineSeparator t c →
      Serves objectToString lineSeparator t' (f c)) :
    Inv objectToString lineSeparator r calls ⟨onConnection reference f st.shared, st.threads.set i t'⟩ := by
  subst hreference
  have hold : ∀ (j : Nat) (u : Thread R), (st.threads.set i t')[j]? = some u →
      ∃ u₀, st.threads[j]? = some u₀ ∧ u₀.socket = u.socket ∧ ((j = i ∧ u₀ = t ∧ u = t') ∨ (j ≠ i ∧ u₀ = u)) := by
    intro j u hu
    rcases getElem?_set_cases hu with ⟨rfl, rfl⟩ | ⟨hj, hu⟩
    · exact ⟨t, ht, hsocket.symm, .inl ⟨rfl, rfl, rfl⟩⟩
    · exact ⟨u, hu, rfl, .inr ⟨hj, rfl⟩⟩
  refine ⟨?_, ?_, ?_, ?_, ?_, ?_⟩
  · rw [← h.threads]
    exact map_set_of_eq _ ht t' hcall
  · intro u hu
    rcases List.mem_or_eq_of_mem_set hu with hu | rfl
    · exact h.sound u hu
    · exact hsound
  · intro k u j hu hj
    obtain ⟨u₀, hu₀, hsame, hwhich⟩ := hold k u hu
    obtain ⟨c, hc, hcs⟩ := h.serves k u₀ j hu₀ (hsame.trans hj)
    refine ⟨if t.socket = some j then f c else c, by simp [hc], ?_⟩
    rcases hwhich with ⟨rfl, rfl, rfl⟩ | ⟨hk, rfl⟩
    · rw [if_pos (hsame.trans hj)]
      exact hserves (by rw [hsame.trans hj]; rfl) c hcs
    · -- another call's connection is not the one of `t`
      rw [if_neg fun hs => hk (h.alone k i u₀ t j hu₀ ht hj hs)]
      exact hcs
  · intro k k' u u' j hu hu' hj hj'
    obtain ⟨u₀, hu₀, hsame, -⟩ := hold k u hu
    obtain ⟨u₀', hu₀', hsame', -⟩ := hold k' u' hu'
    exact h.alone k k' u₀ u₀' j hu₀ hu₀' (hsame.trans hj) (hsame'.trans hj')
  · intro j c hc
    simp only [getElem?_onConnection, Option.map_eq_some_iff] at hc
    obtain ⟨c₀, hc₀, -⟩ := hc
    obtain ⟨u, hu, hj⟩ := h.served j c₀ hc₀
    obtain ⟨k, hk, rfl⟩ := List.getElem_of_mem hu
    by_cases hki : k = i
    · subst hki
      rw [List.getElem?_eq_getElem hk, Option.some.injEq] at ht
      exact ⟨t', List.mem_set hk t', by rw [hsocket, ← ht, hj]⟩
    · refine ⟨st.threads[k], List.mem_of_getElem? (i := k) ?_, hj⟩
      rw [List.getElem?_set_ne (Ne.symm hki), List.getElem?_eq_getElem hk]
  · have hopened : t'.opened = t.opened ++ [] := by
      rw [Thread.opened, Thread.opened, hsocket, hcall, List.append_nil]
    have hperm := flatMap_set_append Thread.opened ht hopened
    rw [List.append_nil] at hperm
    rw [map_onConnection _ hf]
    exact h.samples.trans hperm

/-- A call opens its connection. -/
theorem Inv.connect {st : Pool (List Connection) (Thread R)} (h : Inv objectToString lineSeparator r calls st)
    {i : Nat} {t : Thread R} (ht : st.threads[i]? = some t) {lines : List String}
    (hpc : t.pc = .connecting lines)
    (hsound : Thread.Sound objectToString r { t with socket := some st.shared.length, pc := .openingStream lines }) :
    Inv objectToString lineSeparator r calls ⟨st.shared ++ [⟨t.call.sample, [], false, []⟩],
      st.threads.set i { t with socket := some st.shared.length, pc := .openingStream lines }⟩ := by
  obtain ⟨-, -, hplace⟩ := h.sound t (List.mem_of_getElem? ht)
  rw [hpc] at hplace
  obtain ⟨hnone, hlines⟩ := hplace
  -- the index of the new connection is not one of the old ones
  have hlt : ∀ (k : Nat) (u : Thread R) (j : Nat), st.threads[k]? = some u → u.socket = some j →
      j < st.shared.length := by
    intro k u j hu hj
    obtain ⟨c, hc, -⟩ := h.serves k u j hu hj
    exact (List.getElem?_eq_some_iff.1 hc).1
  refine ⟨?_, ?_, ?_, ?_, ?_, ?_⟩
  · rw [← h.threads]
    exact map_set_of_eq _ ht _ rfl
  · intro u hu
    rcases List.mem_or_eq_of_mem_set hu with hu | rfl
    · exact h.sound u hu
    · exact hsound
  · intro k u j hu hj
    rcases getElem?_set_cases hu with ⟨rfl, rfl⟩ | ⟨hk, hu⟩
    · obtain rfl := Option.some.inj hj
      refine ⟨_, List.getElem?_concat_length, rfl, rfl, lines, hlines, List.nil_prefix, fun _ rest hrest => ?_⟩
      obtain rfl := Option.some.inj hrest
      rfl
    · obtain ⟨c, hc, hcs⟩ := h.serves k u j hu hj
      exact ⟨c, by rw [List.getElem?_append_left (hlt k u j hu hj), hc], hcs⟩
  · intro k k' u u' j hu hu' hj hj'
    rcases getElem?_set_cases hu with ⟨hk, hnew⟩ | ⟨-, hu⟩
    · rcases getElem?_set_cases hu' with ⟨hk', -⟩ | ⟨-, hu'⟩
      · exact hk.trans hk'.symm
      · rw [hnew, Option.some.injEq] at hj
        exact absurd hj.symm (Nat.ne_of_lt (hlt k' u' j hu' hj'))
    · rcases getElem?_set_cases hu' with ⟨-, hnew⟩ | ⟨-, hu'⟩
      · rw [hnew, Option.some.injEq] at hj'
        exact absurd hj'.symm (Nat.ne_of_lt (hlt k u j hu hj))
      · exact h.alone k k' u u' j hu hu' hj hj'
  · intro j c hc
    rcases getElem?_concat_cases hc with hc | ⟨rfl, -⟩
    · obtain ⟨u, hu, hj⟩ := h.served j c hc
      obtain ⟨k, hk⟩ := List.getElem?_of_mem hu
      have hki : i ≠ k := by
        rintro rfl
        rw [ht, Option.some.injEq] at hk
        rw [← hk, hnone] at hj
        cases hj
      exact ⟨u, List.mem_of_getElem? (i := k) (by rw [List.getElem?_set_ne hki, hk]), hj⟩
    · exact ⟨_, List.mem_set (List.getElem?_eq_some_iff.1 ht).1 _, rfl⟩
  · rw [List.map_append]
    refine (h.samples.append_right _).trans (flatMap_set_append Thread.opened ht ?_)
    simp [Thread.opened, hnone]

theorem onConnection_id (reference : Option Nat) (cs : List Connection) : onConnection reference id cs = cs := by
  refine List.ext_getElem? fun j => ?_
  simp

theorem inv_step {st : Pool (List Connection) (Thread R)} (h : Inv objectToString lineSeparator r calls st)
    {i : Nat} {a : Answer} {t t' : Thread R} {cs : List Connection} (ht : st.threads[i]? = some t)
    (hb : body objectToString lineSeparator r i st.shared t a = some (cs, t')) :
    Inv objectToString lineSeparator r calls ⟨cs, st.threads.set i t'⟩ := by
  have hs := body_cases hb
  have hsound := hs.sound (h.sound t (List.mem_of_getElem? ht))
  obtain ⟨hout, hwriter, hplace⟩ := h.sound t (List.mem_of_getElem? ht)
  -- a step that leaves all connections alone
  have quiet : ∀ {u : Thread R}, u.call = t.call → u.socket = t.socket → u.Sound objectToString r →
      (t.socket = none ∨ u.closed = t.closed ∧ ∀ rest, u.rest = some rest → t.rest = some rest) →
      Inv objectToString lineSeparator r calls ⟨st.shared, st.threads.set i u⟩ := by
    intro u hcall hsocket hu hsame
    have hown := h.own ht hu hcall hsocket rfl (f := id) (fun _ => rfl) (by
      intro hsome c hc
      rcases hsame with hnone | ⟨hclosed, hrest⟩
      · rw [hnone] at hsome
        cases hsome
      · exact hc.quiet hcall hclosed hrest)
    rwa [onConnection_id] at hown
  cases hs with
  | ignore hpc hmethod =>
    rw [hpc] at hplace
    exact quiet rfl rfl hsound (.inl hplace)
  | format lines hpc hlines =>
    rw [hpc] at hplace
    exact quiet rfl rfl hsound (.inl hplace)
  | noFormat e hpc hmethod he =>
    rw [hpc] at hplace
    exact quiet rfl rfl hsound (.inl hplace)
  | noPort lines hpc hport =>
    rw [hpc] at hplace
    exact quiet rfl rfl hsound (.inl hplace.1)
  | connect lines hpc hport => exact h.connect ht hpc hsound
  | noConnection lines hpc hport =>
    rw [hpc] at hplace
    exact quiet rfl rfl hsound (.inl hplace.1)
  | openStream lines hpc =>
    refine quiet rfl rfl hsound (.inr ⟨?_, fun rest hrest => ?_⟩)
    · rw [Thread.closed, Thread.closed, hpc]
      rfl
    · rw [Thread.rest, hpc]
      exact hrest
  | noStream lines hpc =>
    rw [hpc] at hplace
    refine quiet rfl rfl hsound (.inr ⟨?_, fun rest hrest => ?_⟩)
    · rw [Thread.closed, Thread.closed, hpc]
      rfl
    · simp [Thread.rest, hplace.2.1] at hrest
  | allPrinted hpc =>
    rw [hpc] at hplace
    refine quiet rfl rfl hsound (.inr ⟨?_, fun rest hrest => ?_⟩)
    · rw [Thread.closed, Thread.closed, hpc]
      rfl
    · simp only [Thread.rest, hplace.2.1, hplace.1, if_true] at hrest
      rw [Thread.rest, hpc]
      exact hrest
  | println line lines cut hpc =>
    rw [hpc] at hplace
    refine h.own ht hsound rfl rfl hplace.2.1 (fun c => ?_) fun _ c hc => hc.println hpc cut
    unfold Connection.write
    cases c.broken <;> cases cut <;> rfl
  | close c thrown hpc =>
    have hreference : t.reference c = none ∨ t.reference c = t.socket := by
      cases c with
      | printWriter => exact hwriter
      | outputStream => rw [Thread.reference, hout]; exact hwriter
      | socket => exact .inr rfl
    have hclose := fun (x : Connection) (hx : Serves objectToString lineSeparator t x) => hx.close hpc
    rcases hreference with hnone | hsocket
    · simp only [hnone] at hclose ⊢
      have hown := h.own ht hsound rfl rfl rfl (f := id) (fun _ => rfl) fun _ => hclose
      rwa [onConnection_id] at hown
    · refine h.own ht hsound rfl rfl hsocket (fun _ => rfl) fun hsome x hx => ?_
      have hx := hclose x hx
      rwa [hsocket, hsome] at hx

theorem inv_inductive : (lts objectToString lineSeparator r calls).Inductive
    (Inv objectToString lineSeparator r calls) :=
  Pool.inductive_of_body (fun _ hst => hst ▸ inv_start) fun _ _ _ _ _ _ h ht hb => inv_step h ht hb

/-! ## The end of a run -/

def PC.Ended : PC → Prop
  | .returned => True
  | .threw _ => True
  | _ => False

instance : DecidablePred PC.Ended
  | .returned => .isTrue trivial
  | .threw _ => .isTrue trivial
  | .formatting => .isFalse id
  | .connecting _ => .isFalse id
  | .openingStream _ => .isFalse id
  | .printing _ => .isFalse id
  | .closing _ _ => .isFalse id

/-- The steps a call has left at most. -/
def Thread.left (t : Thread R) : Nat :=
  match t.pc with
  | .formatting => t.call.sample.data.keys.length + 7
  | .connecting lines => lines.length + 6
  | .openingStream lines => lines.length + 5
  | .printing lines => lines.length + 4
  | .closing .printWriter _ => 3
  | .closing .outputStream _ => 2
  | .closing .socket _ => 1
  | .returned => 0
  | .threw _ => 0

theorem length_payload {sample : Sample} {lines : List String}
    (h : graphiteFormatOf objectToString sample = .ok lines) : lines.length = sample.data.keys.length :=
  (mapM_eq_ok.1 h).length_eq.symm

theorem left_decreases {i : Nat} {cs cs' : List Connection} {t t' : Thread R} {a : Answer}
    (h : body objectToString lineSeparator r i cs t a = some (cs', t')) : t'.left < t.left := by
  cases body_cases h with
  | ignore hpc _ => simp [Thread.left, hpc]
  | format lines hpc hlines => simp [Thread.left, hpc, length_payload hlines.2]
  | noFormat e hpc _ _ => simp [Thread.left, hpc]
  | noPort lines hpc _ => simp [Thread.left, hpc]
  | connect lines hpc _ => simp [Thread.left, hpc]
  | noConnection lines hpc _ => simp [Thread.left, hpc]
  | openStream lines hpc => simp [Thread.left, hpc]
  | noStream lines hpc => simp [Thread.left, hpc]
  | allPrinted hpc => simp [Thread.left, hpc]
  | println line lines cut hpc => simp [Thread.left, hpc]
  | close c thrown hpc =>
    cases c with
    | printWriter => simp [Thread.left, hpc, afterClosing]
    | outputStream => simp [Thread.left, hpc, afterClosing]
    | socket => cases thrown <;> simp [Thread.left, hpc, afterClosing]

/-- A call that has not ended can go on, whatever the others do. -/
theorem goes_on {t : Thread R} (h : ¬ t.pc.Ended) (i : Nat) (cs : List Connection) :
    ∃ next, body objectToString lineSeparator r i cs t .succeeds = some next := by
  unfold body
  cases hpc : t.pc with
  | formatting =>
    cases t.call.method with
    | processError => exact ⟨_, rfl⟩
    | processSample => cases graphiteFormatOf objectToString t.call.sample <;> exact ⟨_, rfl⟩
  | connecting lines => dsimp only; split <;> exact ⟨_, rfl⟩
  | openingStream lines => exact ⟨_, rfl⟩
  | printing lines => cases lines <;> exact ⟨_, rfl⟩
  | closing c thrown => exact ⟨_, rfl⟩
  | returned => rw [hpc] at h; exact absurd trivial h
  | threw e => rw [hpc] at h; exact absurd trivial h

/-! ## What the server has read -/

/-- The sample that a call sends. -/
def sentBy (call : ReceiverCall R) : List Sample :=
  if call.method = .processSample then [call.sample] else []

/-- The server reads on the connection what the call sends, whenever it
reads, and the call closes it. -/
structure Carries (objectToString : List UInt8 → String) (t : Thread R) (c : Connection) : Prop where
  call : t.call.method = .processSample ∧ t.call.sample = c.sample
  reads : Sendable objectToString c.sample → ∀ seen, seen <+: c.received →
    metricsIn seen <+: messagesOf objectToString c.sample
  readsAll : Sendable objectToString c.sample → t.pc.Ended → t.printWriter.isSome = true →
    c.broken = false → metricsIn c.received = messagesOf objectToString c.sample
  released : t.pc.Ended →
    c.closes = if t.printWriter.isSome then [.printWriter, .outputStream, .socket] else [.socket]

structure Forwards (objectToString : List UInt8 → String) (r : GraphiteSampleReceiver)
    (calls : List (ReceiverCall R)) (st : Pool (List Connection) (Thread R)) : Prop where
  once : (st.shared.map (·.sample)).Subperm (calls.flatMap sentBy)
  connections : ∀ j c, st.shared[j]? = some c → ∃ t ∈ st.threads, t.socket = some j ∧ Carries objectToString t c
  throws : ∀ t ∈ st.threads, t.pc.Ended → ((∃ e, t.pc = .threw e) ↔ t.call.method = .processSample ∧
    ((∃ e, graphiteFormatOf objectToString t.call.sample = .error e) ∨ ¬ PortInRange r.carbonServerPort))

theorem Serves.carries {t : Thread R} {c : Connection} (h : Serves objectToString "\n" t c)
    (hsound : t.Sound objectToString r) (hsocket : t.socket.isSome = true) : Carries objectToString t c := by
  obtain ⟨hsample, hcloses, lines, ⟨hmethod, hlines⟩, hprefix, hrest⟩ := h
  rw [← hsample] at hlines
  refine ⟨⟨hmethod, hsample.symm⟩, fun hsendable seen hseen => ?_, fun hsendable hended hwriter hbroken => ?_,
    fun hended => ?_⟩
  · rw [← metricsIn_printed hsendable hlines]
    exact metricsIn_isPrefix (hseen.trans hprefix)
  · have hnone : t.rest = some [] := by
      unfold Thread.rest
      cases hpc : t.pc <;> simp_all [PC.Ended]
    have hall := hrest hbroken [] hnone
    rw [← metricsIn_printed hsendable hlines, ← hall]
    simp [printed]
  · have hpassed : t.pc.passed = [.printWriter, .outputStream, .socket] := by
      cases hpc : t.pc <;> simp_all [PC.Ended, PC.passed]
    obtain ⟨hout, -, -⟩ := hsound
    rw [hcloses, Thread.closed, hpassed]
    cases hwriter : t.printWriter <;> simp_all [Thread.reference]

theorem Inv.sends_of_socket {st : Pool (List Connection) (Thread R)}
    (h : Inv objectToString lineSeparator r calls st) {t : Thread R} (ht : t ∈ st.threads)
    (hsocket : t.socket.isSome = true) : ∃ lines, Sends objectToString t.call lines := by
  obtain ⟨i, hi⟩ := List.getElem?_of_mem ht
  obtain ⟨j, hj⟩ := Option.isSome_iff_exists.1 hsocket
  obtain ⟨c, -, -, -, lines, hlines, -⟩ := h.serves i t j hi hj
  exact ⟨lines, hlines⟩

theorem Inv.forwarding {st : Pool (List Connection) (Thread R)} (h : Inv objectToString "\n" r calls st) :
    Forwards objectToString r calls st := by
  refine ⟨?_, fun j c hc => ?_, fun t ht hended => ?_⟩
  · have hsub : (st.threads.flatMap Thread.opened).Sublist (st.threads.flatMap fun t => sentBy t.call) := by
      refine List.Sublist.flatMap_right _ fun t ht => ?_
      unfold Thread.opened sentBy
      split
      · obtain ⟨lines, hlines⟩ := h.sends_of_socket ht ‹_›
        rw [if_pos hlines.1]
      · exact List.nil_sublist _
    have hcalls : (st.threads.flatMap fun t => sentBy t.call) = calls.flatMap sentBy := by
      rw [← h.threads, List.flatMap_map]
    rw [hcalls] at hsub
    exact h.samples.subperm.trans hsub.subperm
  · obtain ⟨t, ht, hsocket⟩ := h.served j c hc
    obtain ⟨i, hi⟩ := List.getElem?_of_mem ht
    obtain ⟨c', hc', hserves⟩ := h.serves i t j hi hsocket
    rw [hc, Option.some.injEq] at hc'
    subst hc'
    exact ⟨t, ht, hsocket, hserves.carries (h.sound t ht) (by rw [hsocket]; rfl)⟩
  · obtain ⟨-, -, hplace⟩ := h.sound t ht
    cases hpc : t.pc with
    | returned =>
      rw [hpc] at hplace
      refine iff_of_false (by simp) fun hcause => ?_
      rcases hplace with ⟨hmethod, -⟩ | ⟨⟨lines, hlines⟩, hport⟩
      · rw [hmethod] at hcause
        cases hcause.1
      · rcases hcause.2 with ⟨e, he⟩ | hno
        · rw [hlines.2] at he
          cases he
        · exact hno hport
    | threw e =>
      rw [hpc] at hplace
      exact iff_of_true ⟨e, rfl⟩ ⟨hplace.1, hplace.2.2⟩
    | _ => rw [hpc] at hended; exact hended.elim

/-- **Forwarding.** In every interleaving of any calls, whatever the network
answers: no call is sent twice; on each connection the server reads the first
so many messages of the sample of one call, and all of them unless the
connection broke; a call that has ended has closed what it opened, and threw
exactly for a null value or a port that is none. Every run ends, and when
nothing can go on, all calls have ended. -/
theorem forwards {ls : List (Nat × Answer)} {st : Pool (List Connection) (Thread R)}
    (hr : (lts objectToString "\n" r calls).Run (start calls) ls st) :
    Forwards objectToString r calls st ∧
      ls.length ≤ (calls.map fun call => call.sample.data.keys.length + 7).sum ∧
      ((lts objectToString "\n" r calls).Quiescent st → ∀ t ∈ st.threads, t.pc.Ended) := by
  refine ⟨(inv_inductive.reachable st ⟨_, ls, rfl, hr⟩).forwarding, ?_, fun hq t ht => ?_⟩
  · have hlen := hr.length_le (μ := fun st => (st.threads.map Thread.left).sum) (by
      intro st l st' hs
      obtain ⟨t, cs, t', ht, hb, rfl⟩ := Pool.step_iff.1 hs
      have hlt := left_decreases hb
      have hsum := sum_map_set Thread.left ht t'
      show ((st.threads.set l.1 t').map Thread.left).sum < _
      omega)
    have hstart : ((start calls).threads.map Thread.left).sum =
        (calls.map fun call => call.sample.data.keys.length + 7).sum := by
      rw [start, List.map_map]
      rfl
    omega
  · by_contra hgoing
    obtain ⟨i, hi⟩ := List.getElem?_of_mem ht
    obtain ⟨next, hnext⟩ : ∃ next, body objectToString "\n" r i st.shared t .succeeds = some next :=
      goes_on hgoing i st.shared
    rw [Pool.quiescent_iff.1 hq i t .succeeds hi] at hnext
    cases hnext

/-- A reading with two items, and an error. -/
def twoCalls : List (ReceiverCall Unit) :=
  [⟨(), .processSample, [], ((sampleOf "attic" "am2302").addItem "temperature" (.long 21)).addItem "humidity"
      (.long 40)⟩,
   ⟨(), .processError, [], .errorSample ⟨0, 2⟩ ⟨0, "UTC"⟩ "attic" "am2302" none⟩]

/-- The second line of the reading breaks off after five characters. -/
def breaksOff : List (Nat × Answer) :=
  [(0, .succeeds), (0, .succeeds), (1, .succeeds), (0, .succeeds), (0, .succeeds), (0, .ioException 5),
   (0, .succeeds), (0, .succeeds), (0, .succeeds), (0, .succeeds)]

def localCarbon : GraphiteSampleReceiver := ⟨none, 2003, none, none⟩

def brokenOff : Pool (List Connection) (Thread Unit) :=
  (LTS.exec (Pool.step (body (fun _ => "") "\n" localCarbon)) (start twoCalls) breaksOff).getD (start twoCalls)

theorem breaksOff_forwards : Forwards (fun _ => "") localCarbon twoCalls brokenOff ∧
    breaksOff.length ≤ (twoCalls.map fun call => call.sample.data.keys.length + 7).sum ∧
    ((lts (fun _ => "") "\n" localCarbon twoCalls).Quiescent brokenOff → ∀ t ∈ brokenOff.threads, t.pc.Ended) :=
  forwards (LTS.run_of_exec rfl)

end SensorSamplor.CarbonServer
