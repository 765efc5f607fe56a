import EntityMapper.Proofs.Transaction.Outcome
import EntityMapper.Proofs.Transaction.Sharing
import Mathlib.Data.Fin.Tuple.Basic

/-!
# Work with transactions in one another

Work that makes requests on the transactions at hand and asks for further ones, each with a body of
its own, in any order and in one another. At most one transaction is open at any time, and the calls
of the driver tell which: a transaction begins only where none is open, and whoever asks for one
where one is open works in that one.

## Main definitions

* `Work α n`: work with `n` transactions at hand
* `Acts limit ids cur work calls ending finished cur'`: the calls that work makes, and how it ends
* `Block limit calls`: the calls of one transaction, from its beginning to its end
* `Extends limit a calls b`: calls that begin, and end, with a transaction open or with none

## Main results

* `Acts.calls_extend`: the calls of work are those of one transaction after the other
* `Acts.of_not_finished`: work that ends no transaction itself makes statements only, in the
  transaction that is open
-/

namespace EntityMapper

/-! ## Work -/

/-- **Work** with `n` transactions at hand, which ends in one of the three ways. Whoever asks for a
transaction has it at hand in the body and after the body, and goes on otherwise if it could not be
begun. -/
inductive Work (α : Type) : Nat → Type where
  | finish {n : Nat} (ending : Ending α) : Work α n
  | request {n : Nat} (h : Fin n) (r : Request) (next : Except Error Answer → Work α n) : Work α n
  | isDone {n : Nat} (h : Fin n) (next : Bool → Work α n) : Work α n
  | current {n : Nat} (found : Work α (n + 1)) (missing : Work α n) : Work α n
  | nested {n : Nat} (options : TransactionOptions) (body : Work α (n + 1))
    (next : Ending α → Work α (n + 1)) (otherwise : Ending α → Work α n) : Work α n

variable {σ α : Type}

/-- A request as a program on a transaction. -/
def Request.run (index : Nat) (d : Database σ) (id : Nat) : Request → Run σ (Except Error Answer)
  | query q => (·.map .rows) <$> Session.queryRows ⟨index, some id, d⟩ q
  | execute q => (·.map .result) <$> Session.execQuery ⟨index, some id, d⟩ q
  | commit => (·.map fun _ => .done) <$> EntityMapper.commit id
  | rollback => (·.map fun _ => .done) <$> EntityMapper.rollback id

/-- **Work as a program** on the transactions `ids`. -/
def Work.run (index : Nat) (d : Database σ) :
    {n : Nat} → (Fin n → Nat) → Work α n → Run σ (Ending α)
  | _, _, finish ending => pure ending
  | _, ids, request h r next => do
    let a ← r.run index d (ids h)
    (next a).run index d ids
  | _, ids, isDone h next => do
    let b ← EntityMapper.isDone (ids h)
    (next b).run index d ids
  | _, ids, current found missing => do
    match ← currentTransaction with
    | some id => found.run index d (Fin.cons id ids)
    | none => missing.run index d ids
  | _, ids, nested options body next otherwise => do
    let result ← doAmbient index d options fun id => do
      let ending ← body.run index d (Fin.cons id ids)
      pure (ending, id)
    match result with
    | (ending, some id) => (next ending).run index d (Fin.cons id ids)
    | (ending, none) => (otherwise ending).run index d ids

/-! ## What work does -/

/-- The answer to a statement: that of the driver, or an error when the time is over. -/
def Replied (limit : Option Duration) (reply : Reply α) (r : Except Error α) : Prop :=
  (∃ delay, reply = .answered delay r) ∨ ∃ t, limit = some t ∧ r = .error (.timeout t)

/-- **The call of the driver that a request makes**, and what is answered for it. -/
inductive Made (limit : Option Duration) :
    Request → DriverCall → Except Error Answer → Prop where
  | query (q : Sql.Query) {reply r} (h : Replied limit reply r) :
    Made limit (.query q) (.query q reply) (r.map .rows)
  | execute (q : Sql.Query) {reply r} (h : Replied limit reply r) :
    Made limit (.execute q) (.execute q reply) (r.map .result)
  | commit (delay : Duration) (r : Except Error Unit) :
    Made limit .commit (.commit (.answered delay r)) (r.map fun _ => .done)
  | rollback (delay : Duration) (r : Except Error Unit) :
    Made limit .rollback (.rollback (.answered delay r)) (r.map fun _ => .done)

/-- **What work does**, when `cur` is the transaction that is open, if any: the calls that it makes,
how it ends, whether a request in it has ended a transaction, and the transaction that is open
afterwards. -/
inductive Acts (limit : Option Duration) : {n : Nat} → (Fin n → Nat) → Option Nat → Work α n →
    List DriverCall → Ending α → Bool → Option Nat → Prop where
  | finish {n} {ids : Fin n → Nat} {cur} (ending : Ending α) :
    Acts limit ids cur (.finish ending) [] ending false cur
  /-- A statement on the open transaction is a call of the driver. -/
  | statement {n} {ids : Fin n → Nat} {h r next call a calls ending finished cur'}
    (hr : r.IsStatement) (hmade : Made limit r call a)
    (hnext : Acts limit ids (some (ids h)) (next a) calls ending finished cur') :
    Acts limit ids (some (ids h)) (.request h r next) (call :: calls) ending finished cur'
  /-- So is the request that ends it; afterwards no transaction is open. -/
  | ends {n} {ids : Fin n → Nat} {h r next call a calls ending finished cur'}
    (hr : ¬ r.IsStatement) (hmade : Made limit r call a)
    (hnext : Acts limit ids none (next a) calls ending finished cur') :
    Acts limit ids (some (ids h)) (.request h r next) (call :: calls) ending true cur'
  /-- A request on any other transaction is refused without a call. -/
  | refused {n} {ids : Fin n → Nat} {h r next cur calls ending finished cur'}
    (hcur : cur ≠ some (ids h))
    (hnext : Acts limit ids cur (next (.error .transactionDone)) calls ending finished cur') :
    Acts limit ids cur (.request h r next) calls ending finished cur'
  | isDone {n} {ids : Fin n → Nat} {h next cur calls ending finished cur'}
    (hnext : Acts limit ids cur (next (decide (cur ≠ some (ids h)))) calls ending finished cur') :
    Acts limit ids cur (.isDone h next) calls ending finished cur'
  /-- The current transaction is the open one. -/
  | found {n} {ids : Fin n → Nat} {id found missing calls ending finished cur'}
    (hnext : Acts limit (Fin.cons id ids) (some id) found calls ending finished cur') :
    Acts limit ids (some id) (.current found missing) calls ending finished cur'
  | missing {n} {ids : Fin n → Nat} {found missing calls ending finished cur'}
    (hnext : Acts limit ids none missing calls ending finished cur') :
    Acts limit ids none (.current found missing) calls ending finished cur'
  /-- Where a transaction is open, the body works in it. Its calls are all that is called, and its
  ending is handed on as it is. -/
  | reused {n} {ids : Fin n → Nat} {id options body next otherwise calls₁ calls₂ ending₁ ending₂
      finished₁ finished₂ cur₁ cur₂}
    (hbody : Acts limit (Fin.cons id ids) (some id) body calls₁ ending₁ finished₁ cur₁)
    (hnext : Acts limit (Fin.cons id ids) cur₁ (next ending₁) calls₂ ending₂ finished₂ cur₂) :
    Acts limit ids (some id) (.nested options body next otherwise) (calls₁ ++ calls₂) ending₂
      (finished₁ || finished₂) cur₂
  /-- Where none is open, a new one is begun for the body, and is over after it. -/
  | began {n} {ids : Fin n → Nat} {id options body next otherwise delay calls₁ last calls₂ ending₁
      outcome ending₂ finished₁ finished₂ cur₁ cur₂} (hnew : ∀ h, ids h ≠ id)
    (hbody : Acts limit (Fin.cons id ids) (some id) body calls₁ ending₁ finished₁ cur₁)
    (hcloses : Closes ending₁ cur₁.isSome last outcome)
    (hnext : Acts limit (Fin.cons id ids) none (next outcome) calls₂ ending₂ finished₂ cur₂) :
    Acts limit ids none (.nested options body next otherwise)
      (.beginTransaction options (.answered delay (.ok ())) :: calls₁ ++ last ++ calls₂) ending₂
      (finished₁ || finished₂) cur₂
  /-- Or it could not be begun, and the body does not run. -/
  | notBegun {n} {ids : Fin n → Nat} {options body next otherwise calls₁ e calls₂ ending finished
      cur'}
    (hbegin : NotBegun limit options calls₁ e)
    (hnext : Acts limit ids none (otherwise (.error e)) calls₂ ending finished cur') :
    Acts limit ids none (.nested options body next otherwise) (calls₁ ++ calls₂) ending finished
      cur'

/-! ## Blocks -/

/-- **The calls of one transaction**: it begins, there are statements, and it is committed or rolled
back. A transaction that could not be begun has no other calls. -/
inductive Block (limit : Option Duration) : List DriverCall → Prop where
  | whole (options : TransactionOptions) (delay : Duration) {statements : List DriverCall}
    {last : DriverCall} (hstatements : ∀ x ∈ statements, x.IsStatement) (hlast : last.IsEnd) :
    Block limit (.beginTransaction options (.answered delay (.ok ())) :: statements ++ [last])
  | notBegun {options calls e} (h : NotBegun limit options calls e) : Block limit calls

/-- **Calls that begin, and end, with a transaction open or with none.** -/
inductive Extends (limit : Option Duration) : Bool → List DriverCall → Bool → Prop where
  | blocks {bs : List (List DriverCall)} (h : ∀ b ∈ bs, Block limit b) :
    Extends limit false bs.flatten false
  | statements {xs : List DriverCall} (h : ∀ x ∈ xs, x.IsStatement) : Extends limit true xs true
  | ended {xs : List DriverCall} {last : DriverCall} {bs : List (List DriverCall)}
    (hxs : ∀ x ∈ xs, x.IsStatement) (hlast : last.IsEnd) (hbs : ∀ b ∈ bs, Block limit b) :
    Extends limit true (xs ++ last :: bs.flatten) false

namespace Extends

variable {limit : Option Duration} {a b c : Bool} {xs ys : List DriverCall}

theorem nil (a : Bool) : Extends limit a [] a := by
  cases a with
  | false => exact @blocks limit [] (by simp)
  | true => exact .statements (by simp)

theorem append (h : Extends limit a xs b) (h' : Extends limit b ys c) :
    Extends limit a (xs ++ ys) c := by
  cases h with
  | blocks hbs =>
    cases h' with
    | blocks hbs' =>
      rw [← List.flatten_append]
      exact .blocks (List.forall_mem_append.mpr ⟨hbs, hbs'⟩)
  | statements hxs =>
    cases h' with
    | statements hys => exact .statements (List.forall_mem_append.mpr ⟨hxs, hys⟩)
    | ended hys hlast hbs =>
      rw [← List.append_assoc]
      exact .ended (List.forall_mem_append.mpr ⟨hxs, hys⟩) hlast hbs
  | ended hxs hlast hbs =>
    cases h' with
    | blocks hbs' =>
      rw [List.append_assoc, List.cons_append, ← List.flatten_append]
      exact .ended hxs hlast (List.forall_mem_append.mpr ⟨hbs, hbs'⟩)

/-- A statement in an open transaction. -/
theorem statement {call : DriverCall} (h : call.IsStatement) : Extends limit true [call] true :=
  .statements (List.forall_mem_singleton.mpr h)

/-- The end of an open transaction. -/
theorem last {call : DriverCall} (h : call.IsEnd) : Extends limit true [call] false :=
  @ended limit [] call [] (by simp) h (by simp)

/-- A block where no transaction is open. -/
theorem block (h : Block limit xs) : Extends limit false xs false := by
  have hone : Extends limit false [xs].flatten false := .blocks (List.forall_mem_singleton.mpr h)
  rwa [List.flatten_singleton] at hone

/-- The beginning of a transaction that is over afterwards. -/
theorem began {options : TransactionOptions} {delay : Duration} (h : Extends limit true xs false) :
    Extends limit false (.beginTransaction options (.answered delay (.ok ())) :: xs) false := by
  cases h with
  | @ended xs last bs hxs hlast hbs =>
    have hwhole : Block limit
        (.beginTransaction options (.answered delay (.ok ())) :: xs ++ [last]) :=
      .whole options delay hxs hlast
    simpa using (block hwhole).append (.blocks hbs)

/-- Where no transaction is open before and after, the calls are blocks. -/
theorem exists_blocks (h : Extends limit false xs b) :
    ∃ bs : List (List DriverCall), xs = bs.flatten ∧ ∀ b ∈ bs, Block limit b := by
  cases h with
  | blocks hbs => exact ⟨_, rfl, hbs⟩

end Extends

/-- The call of a statement is one, and the call of any other request ends a transaction. -/
theorem Made.isStatement {limit : Option Duration} {r : Request} {call : DriverCall}
    {a : Except Error Answer} (h : Made limit r call a) :
    (r.IsStatement → call.IsStatement) ∧ (¬ r.IsStatement → call.IsEnd) := by
  cases h with
  | query | execute => exact ⟨fun _ => trivial, fun hr => absurd trivial hr⟩
  | commit | rollback => exact ⟨False.elim, fun _ => trivial⟩

/-- An ending is settled by a commit or a rollback. -/
theorem Settles.isEnd {ending outcome : Ending α} {call : DriverCall}
    (h : Settles ending call outcome) : call.IsEnd := by
  cases h <;> trivial

/-- However a body has ended, its transaction is over after it. -/
theorem Closes.calls_extend {limit : Option Duration} {ending outcome : Ending α} {isOpen : Bool}
    {calls : List DriverCall} (h : Closes ending isOpen calls outcome) :
    Extends limit isOpen calls false := by
  cases h with
  | settled h => exact .last h.isEnd
  | kept => exact .nil false

/-- A result commits, and nothing else does. -/
theorem Settles.commit_iff {ending outcome : Ending α} {call : DriverCall}
    (h : Settles ending call outcome) : (∃ reply, call = .commit reply) ↔ ∃ a, ending = .ok a := by
  cases h with
  | committed a | commitFailed a => exact iff_of_true ⟨_, rfl⟩ ⟨a, rfl⟩
  | rolledBack | rollbackFailed | resumed | notResumed => exact iff_of_false nofun nofun

namespace Acts

variable {limit : Option Duration} {n : Nat} {ids : Fin n → Nat} {cur cur' : Option Nat}
  {work : Work α n} {calls : List DriverCall} {ending : Ending α} {finished : Bool}

/-- **The calls of work are those of one transaction after the other.** -/
theorem calls_extend (h : Acts limit ids cur work calls ending finished cur') :
    Extends limit cur.isSome calls cur'.isSome := by
  induction h with
  | finish => exact .nil _
  | statement hr hmade _ ih => exact (Extends.statement (hmade.isStatement.1 hr)).append ih
  | ends hr hmade _ ih => exact (Extends.last (hmade.isStatement.2 hr)).append ih
  | refused _ _ ih | isDone _ ih | found _ ih | missing _ ih => exact ih
  | reused _ _ ihbody ihnext => exact ihbody.append ihnext
  | began _ _ hcloses _ ihbody ihnext =>
    refine Extends.append ?_ ihnext
    rw [List.cons_append]
    exact .began (ihbody.append hcloses.calls_extend)
  | notBegun hbegin _ ih => exact (Extends.block (.notBegun hbegin)).append ih

/-- **Work that ends no transaction itself** makes statements only, as long as one is open, and
leaves it open. -/
theorem of_not_finished (h : Acts limit ids cur work calls ending finished cur')
    (hfinished : finished = false) (hcur : cur ≠ none) :
    cur' = cur ∧ ∀ x ∈ calls, x.IsStatement := by
  induction h with
  | finish => exact ⟨rfl, by simp⟩
  | statement hr hmade _ ih =>
    obtain ⟨rfl, hcalls⟩ := ih hfinished hcur
    exact ⟨rfl, List.forall_mem_cons.mpr ⟨hmade.isStatement.1 hr, hcalls⟩⟩
  | ends => cases hfinished
  | refused _ _ ih | isDone _ ih | found _ ih => exact ih hfinished hcur
  | missing | began | notBegun => exact absurd rfl hcur
  | reused _ _ ihbody ihnext =>
    obtain ⟨hbody, hnext⟩ := Bool.or_eq_false_iff.mp hfinished
    obtain ⟨rfl, hcalls₁⟩ := ihbody hbody hcur
    obtain ⟨rfl, hcalls₂⟩ := ihnext hnext hcur
    exact ⟨rfl, List.forall_mem_append.mpr ⟨hcalls₁, hcalls₂⟩⟩

end Acts

end EntityMapper
