import ComponentSurvey.Tree.Node

/-!
# Outlines of syntax trees

An outline lists the nodes of a syntax tree in pre-order, each with its depth and with the span of
the source it covers. `Node.ofOutline` builds the tree: a node's parent is the nearest earlier one
that is less deep.

* `Span` and `Span.text`, `Span.line` — a stretch of the source, its text and its line.
* `Entry` — one line of an outline.
* `Node.ofOutline` — the tree of an outline.
-/

namespace ComponentSurvey

/-- A stretch of the source, by the offsets of its first byte and of the byte after its last. -/
structure Span where
  start : Nat
  stop : Nat
deriving DecidableEq, Repr, Inhabited

namespace Span

/-- The text of a span; a span that cuts a character in two has none. -/
def text (source : ByteArray) (span : Span) : Except Utf8.Fault String :=
  let bytes := source.extract span.start span.stop
  match String.fromUTF8? bytes with
  | some text => .ok text
  | none => Utf8.decode bytes.toList

/-- The line a span starts on: one more than the number of line feeds before it. -/
def line (source : ByteArray) (span : Span) : Nat :=
  (source.extract 0 span.start).foldl (fun count byte => if byte == 10 then count + 1 else count) 1

end Span

/-- One line of an outline. -/
structure Entry where
  depth : Nat
  kind : Kind
  named : Bool
  field : Option Field
  span : Span
  /-- The text of the node where it is not that of its span. -/
  text : Option String
deriving Repr, Inhabited

namespace Entry

/-- The text of a node: the one given for it, or else that of its span. -/
def content (source : ByteArray) (entry : Entry) : Except Utf8.Fault String :=
  entry.text.elim (entry.span.text source) .ok

/-- The label of a node from its line of the outline. -/
def label (source : ByteArray) (index : Nat) (entry : Entry) : Label :=
  let content := entry.content source
  { index := index
    kind := entry.kind
    named := entry.named
    field := entry.field
    start := entry.span.start
    line := entry.span.line source
    text := content.toOption.getD ""
    fault? := match content with
      | .ok _ => none
      | .error fault => some fault }

end Entry

/-- Puts a node in front of the trees that follow it: those that are deeper are its children. -/
def Node.adopt (depth : Nat) (label : Label) (following : List (Nat × Node)) : List (Nat × Node) :=
  let deeper : Nat × Node → Bool := fun tree => depth < tree.1
  (depth, .mk label ((following.takeWhile deeper).map Prod.snd)) :: following.dropWhile deeper

/-- The tree of an outline over a source, if the outline is not empty. -/
def Node.ofOutline (source : String) (entries : List Entry) : Option Node :=
  let bytes := source.toUTF8
  let trees := entries.zipIdx.foldr (fun entry following =>
    Node.adopt entry.1.depth (entry.1.label bytes entry.2) following) []
  trees.head?.map Prod.snd

end ComponentSurvey
