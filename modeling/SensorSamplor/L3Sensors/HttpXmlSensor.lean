import SensorSamplor.Core.Outcome
import SensorSamplor.L1Data.Sample
import SensorSamplor.L1Data.Throwable

/-!
# The HTTP/XML sensor

`measureWith` fetches the document of its source and stores, for every XPath
of the source, what the XPath selects in it. Every exception on the way is
turned into a `SensorException`; the handler itself asks the source for its
name.

Fetching with parsing, and the evaluation of an XPath, are the caller's
(`HttpXml`): each gives a result or an exception with its message. `D` is the
type of documents.
-/
namespace SensorSamplor

open SensorSamplor.Core

/-- The DOM nodes that an XPath selects. A CDATA section is a text node, and what
the XPath data model has as a namespace node comes as the attribute that declares it. -/
inductive Node where
  | document (textContent : String)
  | element (textContent : String)
  | attribute (value : String)
  | text (data : String)
  | comment (data : String)
  | processingInstruction (data : String)
  deriving DecidableEq

/-- DOM's `getNodeValue`: null for documents and elements. -/
def Node.getNodeValue : Node → Option String
  | .document _ => none
  | .element _ => none
  | .attribute value => some value
  | .text data => some data
  | .comment data => some data
  | .processingInstruction data => some data

/-- mirrors sensor.httpxml/sensor/httpxml/HttpXmlSensorSource.java:14-18; an accepted URL
is its text. -/
structure HttpXmlSensorSource where
  name : String
  url : String
  xPaths : List String
  deriving DecidableEq

/-- Fetching a URL and evaluating an XPath; an exception is its message. -/
structure HttpXml (D : Type) where
  fetchFrom : String → Except (Option String) D
  evaluate : D → String → Except (Option String) (List Node)

/-- mirrors sensor.httpxml/sensor/httpxml/HttpXmlSensor.java:28-41 -/
structure HttpXmlSensor (P : Type) where
  platformIdentifier : P
  source : Option HttpXmlSensorSource
  deriving DecidableEq

namespace HttpXmlSensor

def IDENTIFIER : String := "httpxml"

/-- mirrors sensor.httpxml/sensor/httpxml/HttpXmlSensor.java:73-78 -/
def getIdentifierFrom (path : String) : String :=
  String.ofList (path.toList.filter fun c => decide (c ≠ '(' ∧ c ≠ ')'))

variable {D : Type}

/-- mirrors sensor.httpxml/sensor/httpxml/HttpXmlSensor.java:80-91 -/
def getNodeContentWith (http : HttpXml D) (d : D) (xPathExpression : String) :
    Except (Option String) Value := do
  match ← http.evaluate d xPathExpression with
  | [] => return .string ""
  | node :: _ => return Sample.ofNullable node.getNodeValue

/-- The `try` block of `measureWith`.
mirrors sensor.httpxml/sensor/httpxml/HttpXmlSensor.java:56-66 -/
def fetchAndEvaluate (http : HttpXml D) (uuid : UUID) (now : DateTime) (platformIdentifier : String)
    (source : HttpXmlSensorSource) : Except (Option String) Sample := do
  let xml ← http.fetchFrom source.url
  source.xPaths.foldlM (fun sample xPathExpression => do
    let content ← getNodeContentWith http xml xPathExpression
    return sample.addItem (getIdentifierFrom xPathExpression) content)
    (Sample.transferSample uuid now platformIdentifier source.name)

/-- mirrors sensor.httpxml/sensor/httpxml/HttpXmlSensor.java:43-71. With a null source the
`try` block ends in a `NullPointerException`, and so does its handler. -/
def measure (http : HttpXml D) (uuid : UUID) (now : DateTime) (s : HttpXmlSensor String) :
    Except Throwable Sample :=
  match s.source with
  | none => .error .nullPointerException
  | some source =>
    match fetchAndEvaluate http uuid now s.platformIdentifier source with
    | .ok sample => .ok sample
    | .error message => .error (.sensorException s.platformIdentifier source.name message)

/-! ## What a measurement gives -/

/-- What `getNodeContentWith` makes of a node list. -/
def contentOf : List Node → Value
  | [] => .string ""
  | node :: _ => Sample.ofNullable node.getNodeValue

theorem getNodeContentWith_eq (http : HttpXml D) (d : D) (xPathExpression : String) :
    getNodeContentWith http d xPathExpression = (http.evaluate d xPathExpression).map contentOf := by
  unfold getNodeContentWith
  cases http.evaluate d xPathExpression with
  | error message => rfl
  | ok nodes => cases nodes <;> rfl

/-- The nodes an XPath selects, none when it does not evaluate. -/
def selected (http : HttpXml D) (d : D) (xPathExpression : String) : List Node :=
  match http.evaluate d xPathExpression with
  | .ok nodes => nodes
  | .error _ => []

/-- The data items of the XPaths, put one after the other. -/
def itemsOf (http : HttpXml D) (d : D) (xPaths : List String) (data : Dict String Value) : Dict String Value :=
  xPaths.foldl (fun data x => data.insert (getIdentifierFrom x) (contentOf (selected http d x))) data

theorem foldlM_addItem_eq_ok {http : HttpXml D} {d : D} {xPaths : List String} {s s' : Sample} :
    xPaths.foldlM (fun sample xPathExpression => do
      let content ← getNodeContentWith http d xPathExpression
      return sample.addItem (getIdentifierFrom xPathExpression) content) s = .ok s' ↔
    (∀ x ∈ xPaths, ∃ nodes, http.evaluate d x = .ok nodes) ∧
      s' = { s with data := itemsOf http d xPaths s.data } := by
  induction xPaths generalizing s with
  | nil =>
    refine ⟨fun h => ?_, fun h => ?_⟩
    · cases h
      exact ⟨fun x hx => absurd hx List.not_mem_nil, rfl⟩
    · rw [h.2]
      rfl
  | cons x xPaths ih =>
    rw [List.foldlM_cons, getNodeContentWith_eq, List.forall_mem_cons]
    have hitems : ∀ data, itemsOf http d (x :: xPaths) data =
        itemsOf http d xPaths (data.insert (getIdentifierFrom x) (contentOf (selected http d x))) := fun _ => rfl
    rw [hitems]
    cases hx : http.evaluate d x with
    | error message =>
      refine ⟨fun h => ?_, fun h => ?_⟩
      · cases h
      · obtain ⟨⟨⟨nodes, hnodes⟩, -⟩, -⟩ := h
        cases hnodes
    | ok nodes =>
      have hselected : selected http d x = nodes := by rw [selected, hx]
      rw [hselected]
      refine ih.trans ⟨fun h => ⟨⟨⟨nodes, rfl⟩, h.1⟩, h.2⟩, fun h => ⟨h.1.2, h.2⟩⟩

theorem fetchAndEvaluate_eq_ok {http : HttpXml D} {uuid : UUID} {now : DateTime} {platformIdentifier : String}
    {source : HttpXmlSensorSource} {sample : Sample} :
    fetchAndEvaluate http uuid now platformIdentifier source = .ok sample ↔
      ∃ d, http.fetchFrom source.url = .ok d ∧
        (∀ x ∈ source.xPaths, ∃ nodes, http.evaluate d x = .ok nodes) ∧
        sample = { Sample.transferSample uuid now platformIdentifier source.name with
          data := itemsOf http d source.xPaths ∅ } := by
  unfold fetchAndEvaluate
  rw [bind_eq_ok]
  exact exists_congr fun d => and_congr_right fun _ => foldlM_addItem_eq_ok

theorem measure_eq_ok {http : HttpXml D} {uuid : UUID} {now : DateTime} {platformIdentifier : String}
    {source : HttpXmlSensorSource} {sample : Sample} :
    measure http uuid now ⟨platformIdentifier, some source⟩ = .ok sample ↔
      fetchAndEvaluate http uuid now platformIdentifier source = .ok sample := by
  simp only [measure]
  cases h : fetchAndEvaluate http uuid now platformIdentifier source with
  | error message => simp
  | ok s => simp

/-- A measured sample has the sensor's platform and the source's name. -/
theorem node_fetchAndEvaluate {http : HttpXml D} {uuid : UUID} {now : DateTime} {platformIdentifier : String}
    {source : HttpXmlSensorSource} {sample : Sample}
    (h : fetchAndEvaluate http uuid now platformIdentifier source = .ok sample) :
    sample.node = (platformIdentifier, source.name) := by
  obtain ⟨d, -, -, rfl⟩ := fetchAndEvaluate_eq_ok.1 h
  rfl

end HttpXmlSensor
end SensorSamplor
