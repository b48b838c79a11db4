import BindingPress.Template.Reader

/-! The tree of a template, built from its pieces from left to right. Branches and loops that are
still open form a stack. -/

namespace BindingPress.Template

structure Level where
  nodes : List Node := []
  /-- Whether the newest node is text that the next tag touches. -/
  afterText : Bool := false
  /-- Whether the next text touches a dash. -/
  trimNext : Bool := false
  /-- Whether white space is kept here whatever dashes there are. -/
  exact : Bool := false

/-- What the part at hand belongs to. -/
inductive Opener where
  | arm (arms : List Arm) (condition : Expr)
  | otherwise (arms : List Arm)
  | body (names : LoopNames) (container : Expr)
  /-- What a loop writes when there is nothing to run over; its body is already read. -/
  | empty (names : LoopNames) (container : Expr) (body : Level)

/-- The part at hand, and the parts around it with what they are waiting for. -/
structure Layout where
  level : Level := {}
  enclosing : List (Level × Opener) := []

/-- Trims the text that ends a part. -/
def trimLast : List Node → List Node
  | .text text :: older => .text (Text.trimEnd text) :: older
  | nodes => nodes

namespace Level

/-- The start of a part, after a tag that has a dash or not. -/
def start (exact right : Bool) : Level where
  exact
  trimNext := right && !exact

def addText (level : Level) (text : List Char) : Level where
  nodes := .text (if level.trimNext then Text.trimStart text else text) :: level.nodes
  afterText := !level.exact
  exact := level.exact

/-- The level as a tag finds it. -/
def meet (level : Level) (left : Bool) : Level :=
  if left && level.afterText then { level with nodes := trimLast level.nodes } else level

def add (level : Level) (node : Node) (right : Bool) : Level :=
  { start level.exact right with nodes := node :: level.nodes }

/-- The level after a tag that leaves no node. -/
def pass (level : Level) (right : Bool) : Level :=
  { start level.exact right with nodes := level.nodes }

def finish (level : Level) : List Node :=
  level.nodes.reverse

end Level

namespace Layout

/-- Goes on in a new part inside the one at hand. -/
def enter (layout : Layout) (outer : Level) (opener : Opener) (right : Bool) : Layout where
  level := .start outer.exact right
  enclosing := (outer, opener) :: layout.enclosing

/-- Goes on in the next part of the same branch. -/
def next (outer : Level) (enclosing : List (Level × Opener)) (opener : Opener) (right : Bool) :
    Layout where
  level := .start outer.exact right
  enclosing := (outer, opener) :: enclosing

/-- Goes on in the part of a loop that stands for an empty one. In it and all within it dashes do
not count. -/
def nextEmpty (outer : Level) (enclosing : List (Level × Opener)) (names : LoopNames)
    (container : Expr) (body : Level) : Layout where
  level := .start true false
  enclosing := (outer, .empty names container body) :: enclosing

/-- Closes the innermost branch or loop. -/
def close (outer : Level) (enclosing : List (Level × Opener)) (node : Node) (right : Bool) :
    Layout where
  level := outer.add node right
  enclosing

def addTag (layout : Layout) : DashedTag → Option Layout
  | ⟨left, tag, right⟩ =>
      let met := layout.level.meet left
      match tag, layout.enclosing with
      | .output expr, _ => some { layout with level := met.add (.output expr) right }
      | .comment, _ => some { layout with level := met.pass right }
      | .assign name expr, _ => some { layout with level := met.add (.assign name expr) right }
      | .inclusion template, _ =>
          some { layout with level := met.add (.inclusion template) right }
      | .openBranch condition, _ => some (layout.enter met (.arm [] condition) right)
      | .elseIf condition, (outer, .arm arms earlier) :: enclosing =>
          some (next outer enclosing (.arm (arms ++ [.mk earlier met.finish]) condition) right)
      | .otherwise, (outer, .arm arms earlier) :: enclosing =>
          some (next outer enclosing (.otherwise (arms ++ [.mk earlier met.finish])) right)
      | .closeBranch, (outer, .arm arms condition) :: enclosing =>
          some (close outer enclosing (.branch (arms ++ [.mk condition met.finish]) []) right)
      | .closeBranch, (outer, .otherwise arms) :: enclosing =>
          some (close outer enclosing (.branch arms met.finish) right)
      | .openLoop names container, _ => some (layout.enter met (.body names container) right)
      | .otherwise, (outer, .body names container) :: enclosing =>
          some (nextEmpty outer enclosing names container layout.level)
      | .otherwise, (outer, .empty names container body) :: enclosing =>
          some (nextEmpty outer enclosing names container body)
      | .closeLoop, (outer, .body names container) :: enclosing =>
          some (close outer enclosing (.loop names container met.finish []) right)
      | .closeLoop, (outer, .empty names container body) :: enclosing =>
          let node := Node.loop names container (body.meet left).finish met.finish
          some (close outer enclosing node right)
      | _, _ => none

/-- Adds text between two tags that is written as it is, apart from what their inner dashes trim. -/
def addRaw (layout : Layout) (opening : DashedTag) (text : List Char) (closing : DashedTag) :
    Layout :=
  let met := layout.level.meet opening.left
  let text := if opening.right && !met.exact then Text.trimStart text else text
  let text := if closing.left && !met.exact then Text.trimEnd text else text
  { layout with level := met.add (.verbatim text) closing.right }

def addPiece (layout : Layout) : Piece → Option Layout
  | .text text => some { layout with level := layout.level.addText text }
  | .raw opening text closing => some (layout.addRaw opening text closing)
  | .tag tag => layout.addTag tag

/-- Every branch and loop has to be closed. -/
def finish? (layout : Layout) : Option (List Node) :=
  if layout.enclosing.isEmpty then some layout.level.finish else none

end Layout

/-- The pieces without the comments that a template starts with, which are as if they were not
there. -/
def withoutLeadingComments : List Piece → List Piece
  | .text [] :: .tag ⟨_, .comment, _⟩ :: rest => withoutLeadingComments rest
  | pieces => pieces

/-- Reads a template; fails when a tag cannot be read or stands where it has no place. -/
def parse? (source : List Char) : Option (List Node) := do
  let pieces ← pieces? source
  let layout ← (withoutLeadingComments pieces).foldlM Layout.addPiece {}
  layout.finish?

end BindingPress.Template
