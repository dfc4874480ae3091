import LicenseSeal.Text.Base64
import LicenseSeal.Value
import LicenseSeal.Yaml.Node
import LicenseSeal.Yaml.Number

/-!
# Reading YAML

The value of a YAML document.  Each node is made once, wherever it stands.  The parts of a
collection are made after all that stands beside it, except inside a key, whose parts are made at
once: so the fault that is reported is the first one in that order.
-/

namespace LicenseSeal.Yaml

/-! ## Scalars -/

/-- The truth value of a word. -/
def truth (content : Text) : Except ReadError Bool :=
  let word := Text.lower content
  if ["yes", "true", "on"].any fun yes => word = yes.text then .ok true
  else if ["no", "false", "off"].any fun no => word = no.text then .ok false
  else .error (.notTruth word)

/-- A date, if its parts are in their ranges; a line feed at its end does not count. -/
def instant (content : Text) : Except ReadError Scalar :=
  let line := if content.getLast? = some (.char '\n') then content.dropLast else content
  match Timestamp.ofText? line with
  | none => .error (.badTimestamp .noDate)
  | some found =>
      match found.fault? with
      | some fault => .error (.badTimestamp fault)
      | none => .ok (.instant line)

/-- The bytes that a text writes in base 64. -/
def binary (content : Text) : Except ReadError Bytes :=
  needed (if content.all fun c => c.toNat < 0x80 then Base64.decodeLoose? content else none)

/-- The value of what is written under a tag that scalars have. -/
def scalarValue (tag : Tag) (content : Text) : Except ReadError Scalar :=
  match tag with
  | .text => .ok (.text content)
  | .null => .ok .null
  | .bool => (truth content).map .bool
  | .int => (integer content).map .int
  | .float => (floating content).map .float
  | .timestamp => instant content
  | .binary => (binary content).map .bytes
  | _ => .error .malformed

/-! ## Collections -/

/-- What is made of a node; the parts of a collection are given by their numbers. -/
inductive Made where
  | scalar (value : Scalar)
  | list (items : List Nat)
  | pairs (entries : List (Nat × Nat))
  | set (members : List Scalar)
  | map (entries : List (Scalar × Nat))
  deriving Repr

/-- The nodes of a document, what has been made of them, and the collections whose parts are still
to be made, the latest one first. -/
structure Making where
  nodes : Array Node
  made : Array (Option Made)
  waiting : List Nat

/-- A step of making the nodes of a document. -/
abbrev Make := StateT Making (Except ReadError)

namespace Make

def node (id : Nat) : Make Node := do
  match (← get).nodes[id]? with
  | some node => pure node
  | none => throw .malformed

/-- What has been made of a node. -/
def made? (id : Nat) : Make (Option Made) := do
  pure ((← get).made[id]?.bind fun made => made)

/-- Replaces a node. -/
def setNode (id : Nat) (node : Node) : Make Unit :=
  modify fun making => { making with nodes := making.nodes.setIfInBounds id node }

/-- Says what is made of a node. -/
def setMade (id : Nat) (made : Made) : Make Unit :=
  modify fun making => { making with made := making.made.setIfInBounds id (some made) }

/-- Puts a collection behind those whose parts are still to be made. -/
def enqueue (id : Nat) : Make Unit :=
  modify fun making => { making with waiting := id :: making.waiting }

/-- What is written for a node where a scalar is needed: a mapping has another node to stand in for
it. -/
def written : (fuel : Nat) → Nat → Make Text
  | 0, _ => throw .malformed
  | fuel + 1, id => do
      match (← node id).content with
      | .scalar content => pure content
      | .sequence _ => throw .malformed
      | .mapping entries =>
          let standIn ← entries.findM? fun entry => do pure ((← node entry.1).tag = .standIn)
          match standIn with
          | some entry => written fuel entry.2
          | none => throw .malformed

/-- The entries of a node that has to be a mapping. -/
def entriesOf (id : Nat) : Make (List (Nat × Nat)) := do
  match (← node id).content with
  | .mapping entries => pure entries
  | _ => throw .malformed

/-- The mappings whose entries a merged node has: itself, or those of a sequence with the first one
last. -/
def mergedMappings (id : Nat) : Make (List Nat) := do
  match (← node id).content with
  | .sequence items => pure items.reverse
  | _ => pure [id]

/-- Gives a mapping the entries that are merged into it, in front of its own.  The key for standing
in is a text among others there. -/
def flatten : (depth : Nat) → Nat → Make Unit
  | 0, _ => pure ()
  | depth + 1, id => do
      let entries ← entriesOf id
      let (merging, own) ← entries.foldrM (fun entry (merging, own) => do
        if (← node entry.1).tag = .merge then pure (entry.2 :: merging, own)
        else pure (merging, entry :: own)) ([], [])
      own.forM fun entry => do
        let key ← node entry.1
        if key.tag = .standIn then setNode entry.1 { key with tag := .text }
      setNode id { (← node id) with content := .mapping own }
      let merged ← merging.mapM fun value => do
        let mappings ← mergedMappings value
        let found ← mappings.mapM fun mapping => do
          flatten depth mapping
          entriesOf mapping
        pure found.flatten
      setNode id { (← node id) with content := .mapping (merged.flatten ++ own) }

/-- The value of a key, which has to be a scalar. -/
def keyOf (id : Nat) : Make Scalar := do
  match ← made? id with
  | some (.scalar key) => pure key
  | _ => throw .malformed

/-- The only entry of a node that has to be a mapping with one. -/
def onlyEntry (id : Nat) : Make (Nat × Nat) := do
  match ← entriesOf id with
  | [entry] => pure entry
  | _ => throw .malformed

mutual

/-- Makes a node, unless it is made already.  Inside a key, `within` are the collections around it,
none of which it may be. -/
def make : (fuel : Nat) → (within : Option (List Nat)) → Nat → Make Unit
  | 0, _, _ => throw .malformed
  | fuel + 1, within, id => do
      if (← made? id).isNone then
        match (← node id).tag, within with
        | .sequence, none | .mapping, none | .set, none | .orderedMap, none | .pairs, none =>
            setMade id (.list [])
            enqueue id
        | .sequence, some outer | .mapping, some outer | .set, some outer
        | .orderedMap, some outer | .pairs, some outer =>
            if outer.contains id then throw .malformed else fill fuel (some (id :: outer)) id
        | tag, _ =>
            let content ← written ((← get).nodes.size + 1) id
            match tag, (← node id).content with
            | .timestamp, .mapping _ => throw (.badTimestamp .notScalar)
            | _, _ => setMade id (.scalar (← scalarValue tag content))

/-- Makes the parts of a collection. -/
def fill : (fuel : Nat) → (within : Option (List Nat)) → Nat → Make Unit
  | 0, _, _ => throw .malformed
  | fuel + 1, within, id => do
      let node ← node id
      match node.tag, node.content with
      | .sequence, .sequence items =>
          items.forM (make fuel within)
          setMade id (.list items)
      | .orderedMap, .sequence items | .pairs, .sequence items =>
          let entries ← items.mapM fun item => do
            let entry ← onlyEntry item
            make fuel within entry.1
            make fuel within entry.2
            pure entry
          setMade id (.pairs entries)
      | .mapping, .mapping _ => setMade id (.map (← makeEntries fuel within id))
      | .set, .mapping _ =>
          let entries ← makeEntries fuel within id
          setMade id (.set (entries.map (·.1)))
      | _, _ => throw .malformed

/-- Makes the entries of a mapping: of each one the key with all its parts, then the value. -/
def makeEntries : (fuel : Nat) → (within : Option (List Nat)) → Nat →
    Make (List (Scalar × Nat))
  | 0, _, _ => throw .malformed
  | fuel + 1, within, id => do
      flatten ((← get).nodes.size + 1) id
      (← entriesOf id).mapM fun entry => do
        make fuel (some (within.getD [])) entry.1
        let key ← keyOf entry.1
        make fuel within entry.2
        pure (key, entry.2)

end

/-- Makes the parts of the collections that wait, and of those that come to wait meanwhile. -/
def makeWaiting (depth : Nat) : (fuel : Nat) → Make Unit
  | 0 => pure ()
  | fuel + 1 => do
      let waiting := (← get).waiting.reverse
      if !waiting.isEmpty then
        modify fun making => { making with waiting := [] }
        waiting.forM (fill depth none)
        makeWaiting depth fuel

end Make

/-! ## Values -/

/-- What stands for a collection inside itself. -/
private def ellipsis : Value := .scalar (.instant "...".text)

/-- The values of nodes, each looked up if it has been found before.  `outer` are the collections
around them. -/
def valueOf (made : Array (Option Made)) :
    (fuel : Nat) → (outer : List Nat) → Nat → StateM (Array (Option Value)) Value
  | 0, _, _ => pure ellipsis
  | fuel + 1, outer, id => do
      if outer.contains id then pure (.list [ellipsis])
      else
        match (← get)[id]?.bind fun found => found with
        | some value => pure value
        | none =>
            let part := valueOf made fuel (id :: outer)
            let value ←
              match made[id]?.bind fun made => made with
              | none => pure .null
              | some (.scalar value) => pure (.scalar value)
              | some (.list items) => do pure (.list (← items.mapM part))
              | some (.pairs entries) => do
                  let items ← entries.mapM fun entry => do
                    pure (.list [← part entry.1, ← part entry.2])
                  pure (.list items)
              | some (.set members) =>
                  match Value.mapOf (members.map fun member => (member, .null)) with
                  | .map entries => pure (.list (entries.map fun entry => .scalar entry.1))
                  | other => pure other
              | some (.map entries) => do
                  let values ← entries.mapM fun entry => do pure (entry.1, ← part entry.2)
                  pure (Value.mapOf values)
            modify fun values => values.setIfInBounds id (some value)
            pure value

def Document.value (document : Document) : Except ReadError Value := do
  let count := document.nodes.size
  let depth := 3 * count + 3
  let start : Making := ⟨document.nodes, (List.replicate count none).toArray, []⟩
  let making := do
    Make.make depth none document.root
    Make.makeWaiting depth (count + 1)
  let (_, ended) ← making.run start
  let values := (List.replicate count none).toArray
  pure ((valueOf ended.made (count + 1) [] document.root).run values).1

/-- The value of a text; a text without a document has an absent value. -/
def read (text : Text) : Except ReadError Value := do
  match ← Composer.document (tokens text) with
  | none => pure .null
  | some document => document.value

end LicenseSeal.Yaml
