import Prose.Cst.Basic
import Prose.English.Token
import Prose.Model

namespace Prose
namespace English

/-!
# Documents

Tokens are grouped into sentences and paragraphs.

- White space with two or more line feeds parts paragraphs, and stays between them.
- A sentence ends at a terminal mark, together with the terminal marks and the closing quotes and
  brackets directly behind it.
- White space between sentences belongs to the paragraph.

Every token becomes one leaf, and the leaves keep the order of the tokens.
-/

/-- The marks that end a sentence. -/
def terminals : List String := [".", "!", "?", "\u2026", "\u203d"]

/-- The quotes and brackets that belong to a sentence that has ended in front of them. -/
def closers : List String := [")", "]", "\x7d", "\"", "'", "\u201d", "\u2019", "\u00bb"]

def isParagraphBreak (text : String) : Bool := 2 ≤ text.toList.count '\n'

namespace Kind

def nodeType : Kind → String
  | .word => Prose.Kind.word
  | .whiteSpace => Prose.Kind.whiteSpace
  | .punctuation => Prose.Kind.punctuation
  | .symbol => Prose.Kind.symbol

end Kind

def Token.leaf (token : Token) : Cst := Cst.leaf token.kind.nodeType token.text

/-- Whether a node is a leaf of white space. -/
def isBlank (node : Cst) : Bool := node.type = Prose.Kind.whiteSpace

/-- A document under way.  Its nodes are kept in reverse: those of the root, of the present paragraph
and of the present sentence.  The sentence is closed once it holds a terminal mark that ends it. -/
structure Draft where
  root : List Cst
  paragraph : List Cst
  sentence : List Cst
  closed : Bool

namespace Draft

def empty : Draft := ⟨[], [], [], false⟩

def endSentence (draft : Draft) : Draft :=
  let trailing := draft.sentence.takeWhile isBlank
  let words := draft.sentence.dropWhile isBlank
  let paragraph :=
    if words.isEmpty then draft.paragraph
    else Cst.parent Prose.Kind.sentence words.reverse :: draft.paragraph
  { draft with paragraph := trailing ++ paragraph, sentence := [], closed := false }

/-- End the paragraph.  One that holds nothing but white space is dissolved. -/
def endParagraph (draft : Draft) : Draft :=
  let draft := draft.endSentence
  if draft.paragraph.all isBlank then
    { draft with root := draft.paragraph ++ draft.root, paragraph := [] }
  else
    { draft with
      root := Cst.parent Prose.Kind.paragraph draft.paragraph.reverse :: draft.root
      paragraph := [] }

/-- Put a leaf into the sentence. -/
def extend (draft : Draft) (leaf : Cst) : Draft :=
  { draft with sentence := leaf :: draft.sentence }

def isTerminal (token : Token) : Bool :=
  token.kind = .punctuation && terminals.contains token.text

/-- Whether a token belongs to a sentence that has ended in front of it. -/
def isTrailer (token : Token) : Bool :=
  token.kind = .punctuation && (closers.contains token.text || terminals.contains token.text)

def push (draft : Draft) (token : Token) : Draft :=
  if token.kind = .whiteSpace then
    if isParagraphBreak token.text then
      let draft := draft.endParagraph
      { draft with root := token.leaf :: draft.root }
    else if draft.closed || draft.sentence.isEmpty then
      let draft := draft.endSentence
      { draft with paragraph := token.leaf :: draft.paragraph }
    else draft.extend token.leaf
  else if draft.closed && isTrailer token then draft.extend token.leaf
  else
    let draft := if draft.closed then draft.endSentence else draft
    { draft with closed := isTerminal token }.extend token.leaf

/-- The tree of a document whose tokens have all been taken in. -/
def finish (draft : Draft) : Cst := Cst.parent Prose.Kind.root draft.endParagraph.root.reverse

end Draft

def document (tokens : List Token) : Cst := (tokens.foldl Draft.push Draft.empty).finish

/-- The concrete syntax tree of a text. -/
def parse (text : String) : Cst := document (Token.scan text)

end English
end Prose
