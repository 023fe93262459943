/-!
# Outlines

Nested tables and lists of words, written as indented lines: each level of a table is two columns
further to the right, and the entries of a list begin with a dash in the column of the table's own
names.
-/

namespace VideoProbe.Http

/-- An outline. -/
inductive Outline where
  | word (text : String)
  | table (entries : List (String × Outline))
  | list (items : List Outline)

namespace Outline

/-- The column that is two to the right. -/
def indent (lines : List String) : List String :=
  lines.map ("  " ++ ·)

/-- The lines of a list's entry: the first after a dash, the others below it. -/
def dashed : List String → List String
  | [] => []
  | first :: rest => ("- " ++ first) :: indent rest

/-- Names what is below; a single word goes on the same line. -/
def named (name : String) (below : Outline) (lines : List String) : List String :=
  match below with
  | .word text => [name ++ ": " ++ text]
  | .table _ => (name ++ ":") :: indent lines
  | .list _ => (name ++ ":") :: lines

mutual

/-- The lines of an outline. -/
def lines : Outline → List String
  | .word text => [text]
  | .table entries => entryLines entries
  | .list items => itemLines items

/-- The lines of the entries of a table. -/
def entryLines : List (String × Outline) → List String
  | [] => []
  | (name, below) :: rest => named name below below.lines ++ entryLines rest

/-- The lines of the entries of a list. -/
def itemLines : List Outline → List String
  | [] => []
  | item :: rest => dashed item.lines ++ itemLines rest

end

/-- An outline as a text: each line ends with a line feed. -/
def text (o : Outline) : String :=
  String.join (o.lines.map (· ++ "\n"))

end Outline

end VideoProbe.Http
