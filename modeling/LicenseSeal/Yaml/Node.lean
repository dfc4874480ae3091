import LicenseSeal.Yaml.Tag
import LicenseSeal.Yaml.Token

/-!
# YAML nodes

A document as a graph of scalars, sequences and mappings, each with its tag.  A node is known by its
number.  An alias is the number of the node that was anchored under its name before, so a node can
stand in several places, and even inside itself.
-/

namespace LicenseSeal.Yaml

/-- What a node is written as; the parts of a collection are given by their numbers. -/
inductive Content where
  | scalar (written : Text)
  | sequence (items : List Nat)
  | mapping (entries : List (Nat × Nat))
  deriving Repr

/-- A node. -/
structure Node where
  tag : Tag
  content : Content
  deriving Repr

/-- A document: its nodes, and the number of the outermost one. -/
structure Document where
  nodes : Array Node
  root : Nat
  deriving Repr

/-- The tokens that are left, the nodes composed so far, and those of them that are anchored. -/
structure Composer where
  tokens : List Token
  handles : Handles
  nodes : Array Node
  anchors : List (Text × Nat)

namespace Composer

/-- The beginning of a document. -/
def start (tokens : List Token) (handles : Handles) : Composer :=
  ⟨tokens, handles, #[], []⟩

/-- The next token. -/
def peek (composer : Composer) : Option Token :=
  composer.tokens.head?

/-- The composer behind the next token. -/
def next (composer : Composer) : Composer :=
  { composer with tokens := composer.tokens.tail }

/-- Whether the next token is one of several. -/
def sees (composer : Composer) (tokens : List Token) : Bool :=
  composer.peek.any fun token => tokens.contains token

/-- What is wrong when the next token does not fit: the text's own fault if it stands there. -/
def unexpected (composer : Composer) : ReadError :=
  match composer.peek with
  | some (.fault error) => error
  | _ => .malformed

/-- A new node, and the composer that has it. -/
def add (composer : Composer) (tag : Tag) (content : Content) : Nat × Composer :=
  (composer.nodes.size, { composer with nodes := composer.nodes.push ⟨tag, content⟩ })

/-- A scalar with nothing written for it, as a new node. -/
def addBlank (composer : Composer) : Nat × Composer :=
  composer.add .null (.scalar [])

/-- Gives a node its content. -/
def fill (composer : Composer) (id : Nat) (content : Content) : Composer :=
  { composer with nodes := composer.nodes.modify id fun node => ⟨node.tag, content⟩ }

/-- What stands in front of a node: its anchor and its full tag. -/
structure Properties where
  anchor : Option Text
  tag : Option Text

private def anchorFront (composer : Composer) : Option Text × Composer :=
  match composer.peek with
  | some (.anchor name) => (some name, composer.next)
  | _ => (none, composer)

private def tagFront (composer : Composer) : Except ReadError (Option Text × Composer) :=
  match composer.peek with
  | some (.tag handle suffix) =>
      needed ((composer.handles.full? handle suffix).map fun tag => (some tag, composer.next))
  | _ => .ok (none, composer)

/-- The anchor and the tag at the front, in either order. -/
def properties (composer : Composer) : Except ReadError (Properties × Composer) := do
  match anchorFront composer with
  | (some name, composer) =>
      let (tag, composer) ← tagFront composer
      pure (⟨some name, tag⟩, composer)
  | (none, composer) =>
      let (tag, composer) ← tagFront composer
      if tag.isNone then pure (⟨none, none⟩, composer)
      else
        let (anchor, composer) := anchorFront composer
        pure (⟨anchor, tag⟩, composer)

def Properties.scalarTag (properties : Properties) (isPlain : Bool) (content : Text) : Tag :=
  match properties.tag with
  | none => if isPlain then .ofPlain content else .text
  | some ['!'] => .ofPlain content
  | some full => .ofFull full

def Properties.collectionTag (properties : Properties) (usual : Tag) : Tag :=
  match properties.tag with
  | none => usual
  | some ['!'] => usual
  | some full => .ofFull full

/-- Anchors a node; no name may be anchored twice. -/
def anchored (composer : Composer) (anchor : Option Text) (id : Nat) :
    Except ReadError Composer :=
  match anchor with
  | none => .ok composer
  | some name =>
      if composer.anchors.any fun entry => entry.1 = name then .error .malformed
      else .ok { composer with anchors := (name, id) :: composer.anchors }

/-- A new node with properties. -/
def addWith (composer : Composer) (properties : Properties) (tag : Tag) (content : Content) :
    Except ReadError (Nat × Composer) :=
  let (id, composer) := composer.add tag content
  (composer.anchored properties.anchor id).map fun composer => (id, composer)

/-- The node of an alias. -/
def aliased (composer : Composer) (name : Text) : Except ReadError (Nat × Composer) :=
  match composer.anchors.find? fun entry => entry.1 = name with
  | some entry => .ok (entry.2, composer.next)
  | none => .error .malformed

/-- The tokens in front of which an entry of a collection outside brackets may be left out. -/
private def blockStops : List Token := [.key, .value, .blockEnd]

mutual

/-- The node at the front.  `block` says whether it may be a collection outside brackets,
`indentless` whether it may be a sequence at the column of the mapping around it. -/
def node (block indentless : Bool) : (fuel : Nat) → Composer → Except ReadError (Nat × Composer)
  | 0, _ => throw .malformed
  | fuel + 1, composer => do
      if let some (.alias name) := composer.peek then composer.aliased name
      else
        let (properties, composer) ← composer.properties
        let listTag := properties.collectionTag .sequence
        let mapTag := properties.collectionTag .mapping
        match composer.peek with
        | some (.scalar isPlain written) =>
            (composer.addWith properties (properties.scalarTag isPlain written)
              (.scalar written)).map fun (id, composer) => (id, composer.next)
        | some .flowSequenceStart => do
            let (id, composer) ← composer.addWith properties listTag (.sequence [])
            let (items, composer) ← flowItems true fuel composer.next
            pure (id, composer.fill id (.sequence items))
        | some .flowMappingStart => do
            let (id, composer) ← composer.addWith properties mapTag (.mapping [])
            let (entries, composer) ← flowEntries true fuel composer.next
            pure (id, composer.fill id (.mapping entries))
        | token =>
            if indentless && token = some .blockEntry then do
              let (id, composer) ← composer.addWith properties listTag (.sequence [])
              let (items, composer) ← indentlessItems fuel composer
              pure (id, composer.fill id (.sequence items))
            else if block && token = some .blockSequenceStart then do
              let (id, composer) ← composer.addWith properties listTag (.sequence [])
              let (items, composer) ← blockItems fuel composer.next
              pure (id, composer.fill id (.sequence items))
            else if block && token = some .blockMappingStart then do
              let (id, composer) ← composer.addWith properties mapTag (.mapping [])
              let (entries, composer) ← blockEntries fuel composer.next
              pure (id, composer.fill id (.mapping entries))
            else if (properties.anchor.isSome || properties.tag.isSome)
                && composer.unexpected = .malformed then
              composer.addWith properties (properties.scalarTag true []) (.scalar [])
            else throw composer.unexpected

/-- The items of a sequence up to its end. -/
def blockItems : (fuel : Nat) → Composer → Except ReadError (List Nat × Composer)
  | 0, _ => throw .malformed
  | fuel + 1, composer =>
      match composer.peek with
      | some .blockEntry => do
          let composer := composer.next
          let (item, composer) ←
            if composer.sees [.blockEntry, .blockEnd] then pure composer.addBlank
            else node true false fuel composer
          let (items, composer) ← blockItems fuel composer
          pure (item :: items, composer)
      | some .blockEnd => pure ([], composer.next)
      | _ => throw composer.unexpected

/-- The items of a sequence at the column of the mapping around it. -/
def indentlessItems : (fuel : Nat) → Composer → Except ReadError (List Nat × Composer)
  | 0, _ => throw .malformed
  | fuel + 1, composer =>
      if composer.peek = some .blockEntry then do
        let composer := composer.next
        let (item, composer) ←
          if composer.sees (.blockEntry :: blockStops) then pure composer.addBlank
          else node true false fuel composer
        let (items, composer) ← indentlessItems fuel composer
        pure (item :: items, composer)
      else pure ([], composer)

/-- The entries of a mapping up to its end. -/
def blockEntries : (fuel : Nat) → Composer → Except ReadError (List (Nat × Nat) × Composer)
  | 0, _ => throw .malformed
  | fuel + 1, composer =>
      match composer.peek with
      | some .key => do
          let (key, composer) ← blockPart fuel composer.next
          let (value, composer) ←
            if composer.peek = some .value then blockPart fuel composer.next
            else pure composer.addBlank
          let (entries, composer) ← blockEntries fuel composer
          pure ((key, value) :: entries, composer)
      | some .blockEnd => pure ([], composer.next)
      | _ => throw composer.unexpected

/-- The key or the value of an entry, which may be left out. -/
def blockPart : (fuel : Nat) → Composer → Except ReadError (Nat × Composer)
  | 0, _ => throw .malformed
  | fuel + 1, composer =>
      if composer.sees blockStops then pure composer.addBlank
      else node true true fuel composer

/-- The items of a sequence in brackets up to its end; a comma stands between items. -/
def flowItems (isFirst : Bool) : (fuel : Nat) → Composer → Except ReadError (List Nat × Composer)
  | 0, _ => throw .malformed
  | fuel + 1, composer =>
      if composer.peek = some .flowSequenceEnd then pure ([], composer.next)
      else do
        let composer ←
          if isFirst then pure composer
          else if composer.peek = some .flowEntry then pure composer.next
          else throw composer.unexpected
        match composer.peek with
        | some .flowSequenceEnd => pure ([], composer.next)
        | some .key => do
            let (entry, composer) ← flowPair .flowSequenceEnd fuel composer.next
            let (item, composer) := composer.add .mapping (.mapping [entry])
            let (items, composer) ← flowItems false fuel composer
            pure (item :: items, composer)
        | _ => do
            let (item, composer) ← node false false fuel composer
            let (items, composer) ← flowItems false fuel composer
            pure (item :: items, composer)

/-- The entries of a mapping in brackets up to its end; a comma stands between entries. -/
def flowEntries (isFirst : Bool) :
    (fuel : Nat) → Composer → Except ReadError (List (Nat × Nat) × Composer)
  | 0, _ => throw .malformed
  | fuel + 1, composer =>
      if composer.peek = some .flowMappingEnd then pure ([], composer.next)
      else do
        let composer ←
          if isFirst then pure composer
          else if composer.peek = some .flowEntry then pure composer.next
          else throw composer.unexpected
        match composer.peek with
        | some .flowMappingEnd => pure ([], composer.next)
        | some .key => do
            let (entry, composer) ← flowPair .flowMappingEnd fuel composer.next
            let (entries, composer) ← flowEntries false fuel composer
            pure (entry :: entries, composer)
        | _ => do
            let (key, composer) ← node false false fuel composer
            let (blank, composer) := composer.addBlank
            let (entries, composer) ← flowEntries false fuel composer
            pure ((key, blank) :: entries, composer)

/-- A key and its value in brackets, both of which may be left out. -/
def flowPair (stop : Token) :
    (fuel : Nat) → Composer → Except ReadError ((Nat × Nat) × Composer)
  | 0, _ => throw .malformed
  | fuel + 1, composer => do
      let (key, composer) ←
        if composer.sees [.value, .flowEntry, stop] then pure composer.addBlank
        else node false false fuel composer
      let (value, composer) ←
        if composer.peek ≠ some .value then pure composer.addBlank
        else if composer.next.sees [.flowEntry, stop] then pure composer.next.addBlank
        else node false false fuel composer.next
      pure ((key, value), composer)

end

/-- The tokens behind the directives at the front, and the handles that these define: each one once,
and the version once. -/
def directives (versionSeen : Bool) (handles : Handles) :
    List Token → Except ReadError (Handles × List Token)
  | .version :: rest =>
      if versionSeen then .error .malformed else directives true handles rest
  | .handle name front :: rest =>
      if handles.any fun entry => entry.1 = name then .error .malformed
      else directives versionSeen ((name, front) :: handles) rest
  | .comment :: rest => directives versionSeen handles rest
  | tokens => .ok (handles ++ Handles.usual, tokens)

/-- The one document that is composed, behind which nothing but its end may stand. -/
private def closed (found : Nat × Composer) : Except ReadError (Option Document) :=
  let (root, composer) := found
  let behind := { composer with tokens := composer.tokens.dropWhile (· = Token.documentEnd) }
  if behind.tokens.isEmpty then .ok (some ⟨composer.nodes, root⟩) else .error behind.unexpected

/-- Whether a document behind its mark has nothing written for it. -/
private def isBlankDocument : List Token → Bool
  | [] => true
  | token :: _ =>
      match token with
      | .documentStart | .documentEnd | .version | .handle _ _ | .comment => true
      | _ => false

/-- The one document of a sequence of tokens, if there is one. -/
def document (tokens : List Token) : Except ReadError (Option Document) := do
  let fuel := 4 * tokens.length + 4
  match tokens with
  | [] => pure none
  | .version :: _ | .handle _ _ :: _ | .comment :: _ | .documentStart :: _ =>
      let (handles, rest) ← directives false [] tokens
      match rest with
      | .documentStart :: rest =>
          let composer := start rest handles
          if isBlankDocument rest then closed composer.addBlank
          else (node true false fuel composer).bind closed
      | rest => throw (start rest handles).unexpected
  | _ => (node true false fuel (start tokens Handles.usual)).bind closed

end Composer

end LicenseSeal.Yaml
