import SensorSamplor.Core.JavaText
import SensorSamplor.L3Sensors.HttpXmlSensor

/-!
# The data items of an HTTP/XML sample

The sample holds what a loop of puts leaves, one put for each XPath of the
source, under the XPath without its parentheses (`itemsOf`).

* `content_reported_iff`: when an item is the text of the node that its XPath
  selects. `getNodeValue` has none for elements.
* `itemForEach_iff`: when every XPath has an item. XPaths that differ in
  nothing but parentheses share one.
-/
namespace SensorSamplor

open SensorSamplor.Core SensorSamplor.Core.JavaText

/-- The text of a node: for a document or an element that of all nodes in it. -/
def Node.textContent : Node → String
  | .document textContent => textContent
  | .element textContent => textContent
  | .attribute value => value
  | .text data => data
  | .comment data => data
  | .processingInstruction data => data

/-- A node whose text is in nodes below it. -/
def Node.isInner : Node → Bool
  | .document _ => true
  | .element _ => true
  | _ => false

theorem Node.getNodeValue_eq_iff (node : Node) :
    node.getNodeValue = some node.textContent ↔ node.isInner = false := by
  cases node <;> simp [Node.getNodeValue, Node.textContent, Node.isInner]

namespace HttpXmlSensor

variable {D : Type}

theorem data_of_measure {http : HttpXml D} {source : HttpXmlSensorSource} {d : D}
    (hd : http.fetchFrom source.url = .ok d) {uuid : UUID} {now : DateTime} {platformIdentifier : String}
    {sample : Sample} (h : measure http uuid now ⟨platformIdentifier, some source⟩ = .ok sample) :
    sample.data = itemsOf http d source.xPaths ∅ := by
  obtain ⟨d', hd', -, rfl⟩ := fetchAndEvaluate_eq_ok.1 (measure_eq_ok.1 h)
  rw [hd, Except.ok.injEq] at hd'
  rw [hd']

/-! ## What an XPath selects -/

/-- The text of the first selected node, empty if there is none. -/
def textOf : List Node → String
  | [] => ""
  | node :: _ => node.textContent

theorem contentOf_eq_iff (nodes : List Node) :
    contentOf nodes = .string (textOf nodes) ↔ ∀ node ∈ nodes.head?, node.isInner = false := by
  cases nodes with
  | nil => simp [contentOf, textOf]
  | cons node nodes =>
    have hvalue : Sample.ofNullable node.getNodeValue = .string node.textContent ↔
        node.getNodeValue = some node.textContent := by
      cases node.getNodeValue <;> simp [Sample.ofNullable]
    simp only [contentOf, textOf, List.head?_cons, Option.mem_some, forall_eq']
    rw [hvalue, node.getNodeValue_eq_iff]

/-- **The content of a node.** For every document, source and XPath of it
with a key of its own: the item of the XPath is the text of the first
selected node, or empty if there is none, if and only if this node is
neither an element nor a document. -/
theorem content_reported_iff {http : HttpXml D} {source : HttpXmlSensorSource} {d : D}
    (hd : http.fetchFrom source.url = .ok d) {uuid : UUID} {now : DateTime} {platformIdentifier : String}
    {sample : Sample} (h : measure http uuid now ⟨platformIdentifier, some source⟩ = .ok sample) {x : String}
    (hx : x ∈ source.xPaths) {nodes : List Node} (hnodes : http.evaluate d x = .ok nodes)
    (hown : ∀ y ∈ source.xPaths, getIdentifierFrom y = getIdentifierFrom x → y = x) :
    sample.data.lookup (getIdentifierFrom x) = some (.string (textOf nodes)) ↔
      ∀ node ∈ nodes.head?, node.isInner = false := by
  have hselected : selected http d x = nodes := by rw [selected, hnodes]
  have hitem : sample.data.lookup (getIdentifierFrom x) = some (contentOf nodes) := by
    rw [data_of_measure hd h, ← hselected]
    exact Dict.lookup_foldl_insert_own hx fun y hy hyx => by rw [hown y hy hyx]
  rw [hitem, Option.some.injEq, contentOf_eq_iff]

/-- A service with one document: an element with an attribute. -/
def pastries : HttpXml Unit where
  fetchFrom _ := .ok ()
  evaluate _ x := .ok (if x = "pastries/donuts/total" then [.element "12"]
    else if x = "pastries/donuts/@eaten" then [.attribute "5"] else [])

/-- A source for the XPaths. -/
def pastrySource (xPaths : List String) : HttpXmlSensorSource :=
  ⟨"myDonutSensor", "http://api.doughnuts.com/location/3", xPaths⟩

theorem attribute_reported : ∃ sample,
    measure pastries ⟨0, 1⟩ ⟨0, "UTC"⟩ ⟨"node", some (pastrySource ["pastries/donuts/@eaten"])⟩ = .ok sample ∧
    (sample.data.lookup (getIdentifierFrom "pastries/donuts/@eaten") =
        some (.string (textOf [.attribute "5"])) ↔
      ∀ node ∈ [Node.attribute "5"].head?, node.isInner = false) := by
  have hd : pastries.fetchFrom (pastrySource ["pastries/donuts/@eaten"]).url = .ok () := rfl
  have hnodes : pastries.evaluate () "pastries/donuts/@eaten" = .ok [.attribute "5"] := rfl
  exact ⟨_, rfl, content_reported_iff hd rfl List.mem_cons_self hnodes
    fun y hy _ => List.mem_singleton.1 hy⟩

/-- The XPath of an element: its item is null, not the element's text. -/
theorem element_not_reported : ∃ sample,
    measure pastries ⟨0, 1⟩ ⟨0, "UTC"⟩ ⟨"node", some (pastrySource ["pastries/donuts/total"])⟩ = .ok sample ∧
    pastries.evaluate () "pastries/donuts/total" = .ok [.element "12"] ∧
    sample.data.lookup (getIdentifierFrom "pastries/donuts/total") ≠ some (.string "12") :=
  ⟨_, rfl, rfl, by decide⟩

/-! ## An item for each XPath -/

/-- The XPaths differ in parentheses, if at all. -/
def SameButParentheses (x y : String) : Prop :=
  SameBut (fun c => c = '(' ∨ c = ')') x.toList y.toList

theorem getIdentifierFrom_eq_iff (x y : String) :
    getIdentifierFrom x = getIdentifierFrom y ↔ SameButParentheses x y := by
  unfold getIdentifierFrom SameButParentheses
  rw [← String.toList_inj, String.toList_ofList, String.toList_ofList]
  refine filter_eq_filter_iff fun c => ?_
  rw [decide_eq_false_iff_not, not_and_or, not_not, not_not]

/-- Every XPath of the source has an item of its own, with what it selects. -/
structure ItemForEach (http : HttpXml D) (d : D) (source : HttpXmlSensorSource) (sample : Sample) : Prop where
  count : sample.data.keys.length = source.xPaths.length
  own : ∀ x ∈ source.xPaths,
    sample.data.lookup (getIdentifierFrom x) = some (contentOf (selected http d x))

/-- **An item for each XPath.** For every source with distinct XPaths and
every document on which they evaluate, each has its item if and only if no
two of them differ in parentheses only. -/
theorem itemForEach_iff {http : HttpXml D} {source : HttpXmlSensorSource} {d : D}
    (hd : http.fetchFrom source.url = .ok d) (hdistinct : source.xPaths.Nodup)
    (h : ∀ x ∈ source.xPaths, ∃ nodes, http.evaluate d x = .ok nodes) (uuid : UUID) (now : DateTime)
    (platformIdentifier : String) : ∃ sample,
    measure http uuid now ⟨platformIdentifier, some source⟩ = .ok sample ∧
    (ItemForEach http d source sample ↔
      ∀ x ∈ source.xPaths, ∀ y ∈ source.xPaths, SameButParentheses x y → x = y) := by
  refine ⟨_, measure_eq_ok.2 (fetchAndEvaluate_eq_ok.2 ⟨d, hd, h, rfl⟩), ?_⟩
  have hinj : (∀ x ∈ source.xPaths, ∀ y ∈ source.xPaths, SameButParentheses x y → x = y) ↔
      (source.xPaths.map getIdentifierFrom).Nodup := by
    rw [List.nodup_map_iff_inj_on hdistinct]
    simp only [getIdentifierFrom_eq_iff]
  rw [hinj, ← Dict.length_keys_foldl_insert_iff]
  constructor
  · intro hitems
    exact hitems.count
  · intro hcount
    refine ⟨hcount, fun x hx => Dict.lookup_foldl_insert_own hx fun y hy hyx => ?_⟩
    have hnodup := Dict.length_keys_foldl_insert_iff.1 hcount
    rw [(List.nodup_map_iff_inj_on hdistinct).1 hnodup y hy x hx hyx]

theorem twoItems_forEach : ∃ sample,
    measure pastries ⟨0, 1⟩ ⟨0, "UTC"⟩ ⟨"node", some (pastrySource ["a/text()", "b/text()"])⟩ = .ok sample ∧
    (ItemForEach pastries () (pastrySource ["a/text()", "b/text()"]) sample ↔
      ∀ x ∈ (pastrySource ["a/text()", "b/text()"]).xPaths, ∀ y ∈ (pastrySource ["a/text()", "b/text()"]).xPaths,
        SameButParentheses x y → x = y) := by
  have hd : pastries.fetchFrom (pastrySource ["a/text()", "b/text()"]).url = .ok () := rfl
  exact itemForEach_iff hd (by decide) (fun x _ => ⟨_, rfl⟩) ⟨0, 1⟩ ⟨0, "UTC"⟩ "node"

/-- The child elements `text` and the text nodes of an element share a key:
there is one item for the two. -/
theorem textPaths_share : ∃ sample,
    measure pastries ⟨0, 1⟩ ⟨0, "UTC"⟩ ⟨"node", some (pastrySource ["a/text", "a/text()"])⟩ = .ok sample ∧
    (pastrySource ["a/text", "a/text()"]).xPaths.Nodup ∧
    ¬ ItemForEach pastries () (pastrySource ["a/text", "a/text()"]) sample := by
  refine ⟨_, rfl, by decide, fun h => ?_⟩
  have hcount := h.count
  exact absurd hcount (by decide)

end HttpXmlSensor
end SensorSamplor
