import SchemaTypes.CommandLine.Flag
import SchemaTypes.Text.Wrap

/-!
# Usage and help

The texts that explain the command line, laid out for a number of columns, of which the last two
stay free.

The usage says how the program is called. If it is too long for one line, its parts are packed
into lines behind the name of the program, or below it where there is little room. The help has an
entry for each flag: its spellings, and beside them its explanation in a column of its own. That
column moves to the left where there is little room, but the explanations keep a least width;
spellings that reach into the column have a line to themselves.
-/

namespace SchemaTypes
namespace CommandLine

/-- The name of the program. -/
def programName : String := "pgtsgen"

/-- The width of the texts. -/
def textWidth (columns : Nat) : Int := (columns : Int) - 2

/-- So many spaces. -/
def spaces (n : Nat) : String :=
  String.ofList (List.replicate n ' ')

/-! ## Usage -/

/-- What stands in front of the name of the program. -/
def usageFront : String := "usage: "

/-- How a flag is given: by its shortest spelling. -/
def Flag.usage (flag : Flag) : String :=
  let spelling :=
    match flag.letter? with
    | some letter => String.ofList ['-', letter]
    | none => flag.long
  "[" ++ spelling ++ (flag.placeholder?.map (" " ++ ·)).getD "" ++ "]"

/-- How the program is called. -/
def usageText (columns : Nat) : String :=
  let width := textWidth columns
  let parts := Flag.all.map (·.usage)
  let whole := usageFront ++ " ".intercalate (programName :: parts)
  let begun := usageFront.length + programName.length
  let lines :=
    if (whole.length : Int) ≤ width then [whole]
    else if 4 * (begun : Int) ≤ 3 * width then
      match Text.pack width usageFront.length (begun + 1) (programName :: parts) with
      | [] => []
      | first :: others => (usageFront ++ first) :: others.map (spaces (begun + 1) ++ ·)
    else
      (usageFront ++ programName) ::
        (Text.pack width usageFront.length usageFront.length parts).map
          (spaces usageFront.length ++ ·)
  String.join (lines.map (· ++ "\n"))

/-! ## Help -/

/-- The spellings of a flag, with a word for its value. -/
def Flag.spellings (flag : Flag) : String :=
  let value := (flag.placeholder?.map (" " ++ ·)).getD ""
  let short := flag.letter?.map fun letter => String.ofList ['-', letter]
  ", ".intercalate ((short.toList ++ [flag.long]).map (· ++ value))

/-- The column in which explanations begin. -/
def explanationColumn (columns : Nat) : Nat :=
  min 24 (max (columns - 22) 4)

/-- The width of explanations. -/
def explanationWidth (columns : Nat) : Nat :=
  max (columns - 2 - explanationColumn columns) 11

/-- The entry of a flag: its spellings and its explanation. -/
def Flag.entry (columns : Nat) (flag : Flag) : String :=
  let column := explanationColumn columns
  let head := "  " ++ flag.spellings
  let indented := fun (line : String) => spaces column ++ line
  let lines :=
    match Text.wrap (explanationWidth columns) flag.explanation with
    | [] => [head]
    | first :: others =>
      if head.length + 2 ≤ column then
        (head ++ spaces (column - head.length) ++ first) :: others.map indented
      else head :: (first :: others).map indented
  String.join (lines.map (· ++ "\n"))

/-- What the program does. -/
def purpose : String :=
  "Generate TypeScript types and Knex table registrations from a PostgreSQL schema\n"

/-- Examples of calls. -/
def examples : String := "Examples:
  pgtsgen                                    Generate types using default settings
  pgtsgen -o ./src/types/db.ts               Generate types to a custom location
  pgtsgen --dry-run                          Preview the generated types
  pgtsgen -H localhost -p 5432 -u me -d mydb Connect to a specific database
"

/-- What the program does, what its flags mean, and examples. -/
def helpText (columns : Nat) : String :=
  "\n".intercalate [usageText columns, purpose,
    "options:\n" ++ String.join (Flag.all.map (·.entry columns)), examples]

end CommandLine
end SchemaTypes
