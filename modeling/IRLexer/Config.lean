/-!
# Scan configurations

A configuration has three options.  It may be built from named entries, in any order; names that
are no option are ignored or, on request, rejected together.
-/

namespace IRLexer

structure Config where
  skipComments : Bool := false
  strict : Bool := false
  sourceFile : Option String := none
  deriving DecidableEq, Repr, Inhabited

inductive Setting
  | flag (value : Bool)
  | file (name : Option String)
  | other
  deriving DecidableEq, Repr

def Setting.flag? : Setting → Option Bool
  | flag value => some value
  | _ => none

def Setting.file? : Setting → Option (Option String)
  | file name => some name
  | _ => none

/-- The entries that name no option, in the order of their code points. -/
structure UnknownOptions where
  names : List String
  deriving DecidableEq, Repr

def UnknownOptions.message (unknown : UnknownOptions) : String :=
  "Unknown scan config option(s): " ++ ", ".intercalate unknown.names

namespace Config

def optionNames : List String :=
  ["skip_comments", "strict", "source_file"]

def unknownNames (entries : List (String × Setting)) : List String :=
  ((entries.map Prod.fst).filter (· ∉ optionNames)).mergeSort fun first second =>
    decide (first ≤ second)

def ofKnownEntries (entries : List (String × Setting)) : Config where
  skipComments := ((entries.lookup "skip_comments").bind Setting.flag?).getD false
  strict := ((entries.lookup "strict").bind Setting.flag?).getD false
  sourceFile := ((entries.lookup "source_file").bind Setting.file?).getD none

/-- With `rejectUnknown` every entry must name an option. -/
def ofEntries (entries : List (String × Setting)) (rejectUnknown : Bool) :
    Except UnknownOptions Config :=
  if rejectUnknown && !(unknownNames entries).isEmpty then .error ⟨unknownNames entries⟩
  else .ok (ofKnownEntries entries)

end Config

end IRLexer
