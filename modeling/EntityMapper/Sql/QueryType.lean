import EntityMapper.Text.Ascii
import EntityMapper.Text.Blank

/-!
# Kinds of statement

What a statement does, told from its first word.

## Main definitions

* `QueryType`: the kinds
* `QueryType.ofSql s`: the kind of a statement written by hand
-/

namespace EntityMapper.Sql

/-- **What a statement does.** -/
inductive QueryType where
  | select | insert | update | delete | other
  deriving DecidableEq, Repr

namespace QueryType

/-- The first word of the statements of a kind. -/
def word : QueryType → String
  | select => "SELECT"
  | insert => "INSERT"
  | update => "UPDATE"
  | delete => "DELETE"
  | other => "OTHER"

/-- The word for the kind in diagnostics. -/
def label : QueryType → String
  | select => "Select"
  | insert => "Insert"
  | update => "Update"
  | delete => "Delete"
  | other => "Other"

/-- The ASCII letters that a statement begins with after blanks, in upper case. -/
def keyword (sql : String) : String :=
  let letters := (Text.trimBlankStart sql.toList).takeWhile Text.isAsciiLetter
  String.ofList (letters.map Text.asciiUpper)

/-- **The kind of a statement written by hand**: its first word decides, in any case. -/
def ofSql (sql : String) : QueryType :=
  ([select, insert, update, delete].find? fun t => t.word == keyword sql).getD other

end QueryType

end EntityMapper.Sql
