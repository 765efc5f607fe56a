import EntityMapper.Proofs.Transaction.Steady
import Mathlib.Data.Fin.Tuple.Basic

/-!
# Ambient transactions on several databases

A task that works on several databases asks any of them for an ambient transaction, in any order and
in one another. Where a transaction is current that has not been ended, its body gets that one, and
with it the database that the transaction was begun on: whatever database was asked, the statements
of the body go to that database, through its middlewares and in its dialect. Only where none is, the
database that was asked begins one.

## Main definitions

* `Errand σ α n`: what a task does with `n` transactions at hand
* `Errand.run`: the program of an errand
* `Held`: a transaction with the database that it was begun on
* `Errand.runFrom`: the errand with every transaction on the database that it was begun on
* `Tracks txs cur c w`: the transactions at hand, and the current one, are on their databases
* `Served databases t c e stmt d`: a statement is left to the database of its transaction

## Main results

* `Errand.steady`: errands are steady
* `eval_doOwn_congr`, `known_of_doOwn`: a transaction is on the database that began it
* `Errand.eval_run`: the program of an errand leaves every transaction where it was begun
* `ambient_follows_origin`: so do tasks, whatever databases they ask
-/

namespace EntityMapper

open EntityMapper.Sql

variable {σ α β : Type} {n : Nat}

/-! ## Errands -/

/-- **What a task does** with `n` transactions at hand: anything steady; statements on one of them;
looking for the current one; work for which a deadline is set; and work in a transaction of its own,
or in an ambient one, for which it asks any database. A transaction stays at hand after its body. -/
inductive Errand (σ α : Type) : Nat → Type 1 where
  | finish {n : Nat} (ending : Ending α) : Errand σ α n
  | act {n : Nat} {β : Type} (x : (Fin n → Nat) → Run σ β) (hx : ∀ ids, (x ids).Steady)
    (next : β → Errand σ α n) : Errand σ α n
  | operate {n : Nat} (h : Fin n) (e : Entity) (stmt : Statement) (d : Demand)
    (next : Except Error d.Result → Errand σ α n) : Errand σ α n
  | current {n : Nat} (found : Errand σ α (n + 1)) (missing : Errand σ α n) : Errand σ α n
  | within {n : Nat} (span : Duration) (body : Errand σ α n)
    (next : Option (Ending α) → Errand σ α n) : Errand σ α n
  | own {n : Nat} (asked : Nat) (options : TransactionOptions) (body : Errand σ α (n + 1))
    (next : Ending α → Errand σ α (n + 1)) (otherwise : Ending α → Errand σ α n) : Errand σ α n
  | ambient {n : Nat} (asked : Nat) (options : TransactionOptions) (body : Errand σ α (n + 1))
    (next : Ending α → Errand σ α (n + 1)) (otherwise : Ending α → Errand σ α n) : Errand σ α n

/-- A body in a transaction of its own, and which transaction that was. -/
def doOwn (index : Nat) (d : Database σ) (options : TransactionOptions)
    (body : Nat → Run σ (Ending α)) : Run σ (Ending α × Option Nat) :=
  doTransaction index d options fun id => do
    let ending ← body id
    pure (ending, id)

/-- **The program of an errand** on the transactions `ids`. -/
def Errand.run (databases : Nat → Database σ) :
    {n : Nat} → (Fin n → Nat) → Errand σ α n → Run σ (Ending α)
  | _, _, finish ending => pure ending
  | _, ids, act x _ next => do
    let b ← x ids
    (next b).run databases ids
  | _, ids, operate h e stmt d next => do
    let s ← Session.ofTransaction databases (ids h)
    let r ← s.ask e stmt d
    (next r).run databases ids
  | _, ids, current found missing => do
    match ← currentTransaction with
    | some id => found.run databases (Fin.cons id ids)
    | none => missing.run databases ids
  | _, ids, within span body next => do
    let deadline := (← get).now + span.ticks
    let r ← withDeadline deadline (body.run databases ids)
    (next r).run databases ids
  | _, ids, own asked options body next otherwise => do
    match ← doOwn asked (databases asked) options fun id =>
      body.run databases (Fin.cons id ids) with
    | (ending, some id) => (next ending).run databases (Fin.cons id ids)
    | (ending, none) => (otherwise ending).run databases ids
  | _, ids, ambient asked options body next otherwise => do
    let result ← doAmbient asked (databases asked) options fun id => do
      let ending ← body.run databases (Fin.cons id ids)
      pure (ending, id)
    match result with
    | (ending, some id) => (next ending).run databases (Fin.cons id ids)
    | (ending, none) => (otherwise ending).run databases ids

/-! ## Transactions with their databases -/

/-- **A transaction with the database that it was begun on.** -/
structure Held where
  id : Nat
  origin : Nat

/-- The transaction as a session of the database that it was begun on. -/
def Held.session (databases : Nat → Database σ) (t : Held) : Session σ :=
  ⟨t.origin, some t.id, databases t.origin⟩

/-- The current transaction, unless it has been ended. -/
def unfinished : Option Held → Run σ (Option Held)
  | none => pure none
  | some t => do pure (if ← isDone t.id then none else some t)

/-- **The errand with every transaction on the database that it was begun on**, where `cur` is the
current one. Statements are left to that database. Whoever asks for an ambient transaction gets the
current one with its database, and only otherwise one of the database that was asked. -/
def Errand.runFrom (databases : Nat → Database σ) :
    {n : Nat} → (Fin n → Held) → Option Held → Errand σ α n → Run σ (Ending α)
  | _, _, _, finish ending => pure ending
  | _, txs, cur, act x _ next => do
    let b ← x fun h => (txs h).id
    (next b).runFrom databases txs cur
  | _, txs, cur, operate h e stmt d next => do
    let r ← ((txs h).session databases).ask e stmt d
    (next r).runFrom databases txs cur
  | _, txs, cur, current found missing => do
    match ← unfinished cur with
    | some t => found.runFrom databases (Fin.cons t txs) cur
    | none => missing.runFrom databases txs cur
  | _, txs, cur, within span body next => do
    let deadline := (← get).now + span.ticks
    let r ← withDeadline deadline (body.runFrom databases txs cur)
    (next r).runFrom databases txs cur
  | _, txs, cur, own asked options body next otherwise => do
    match ← doOwn asked (databases asked) options fun id =>
      body.runFrom databases (Fin.cons ⟨id, asked⟩ txs) cur with
    | (ending, some id) => (next ending).runFrom databases (Fin.cons ⟨id, asked⟩ txs) cur
    | (ending, none) => (otherwise ending).runFrom databases txs cur
  | _, txs, cur, ambient asked options body next otherwise => do
    match ← unfinished cur with
    | some t =>
      let ending ← body.runFrom databases (Fin.cons t txs) cur
      (next ending).runFrom databases (Fin.cons t txs) cur
    | none =>
      match ← doOwn asked (databases asked) options fun id =>
        withReader (fun c => { c with ambient := some id })
          (body.runFrom databases (Fin.cons ⟨id, asked⟩ txs) (some ⟨id, asked⟩)) with
      | (ending, some id) => (next ending).runFrom databases (Fin.cons ⟨id, asked⟩ txs) cur
      | (ending, none) => (otherwise ending).runFrom databases txs cur

/-! ## Errands are steady -/

theorem steady_doOwn (index : Nat) (d : Database σ) (options : TransactionOptions)
    {body : Nat → Run σ (Ending α)} (hbody : ∀ id, (body id).Steady) :
    (doOwn index d options body).Steady :=
  steady_doTransaction index d options fun id => (hbody id).bind fun _ => .pure _

section Errands

variable {databases : Nat → Database σ}
  (hdatabases : ∀ i, ∀ a ∈ (databases i).middlewares, a.Steady)
include hdatabases

/-- **Errands are steady**, as long as the middlewares of all databases are. -/
theorem Errand.steady (errand : Errand σ α n) (ids : Fin n → Nat) :
    (errand.run databases ids).Steady := by
  induction errand with
  | finish ending => exact .pure ending
  | act x hx next ih => exact (hx ids).bind fun b => ih b ids
  | operate h e stmt d next ih =>
    -- Whatever database the handle names, its middlewares are steady.
    intro c w
    rw [run, eval_bind]
    exact (Session.steady_ask _ (hdatabases _) e stmt d).bind (fun r => ih r ids) c w
  | current found missing ihfound ihmissing =>
    refine steady_currentTransaction.bind fun id => ?_
    cases id with
    | some id => exact ihfound _
    | none => exact ihmissing ids
  | within span body next ihbody ihnext =>
    exact steady_get.bind fun _ => (steady_withDeadline _ (ihbody ids)).bind fun r => ihnext r ids
  | own asked options body next otherwise ihbody ihnext ihotherwise =>
    rw [run]
    refine (steady_doOwn asked _ options fun id => ihbody _).bind fun result => ?_
    rcases result with ⟨ending, _ | id⟩
    · exact ihotherwise ending ids
    · exact ihnext ending _
  | ambient asked options body next otherwise ihbody ihnext ihotherwise =>
    have hbody (id : Nat) : Run.Steady (do
        let ending ← body.run databases (Fin.cons id ids)
        pure (ending, id)) := (ihbody _).bind fun _ => .pure _
    rw [run]
    refine (steady_doAmbient asked _ options hbody).bind fun result => ?_
    rcases result with ⟨ending, _ | id⟩
    · exact ihotherwise ending ids
    · exact ihnext ending _

end Errands

/-! ## Where transactions are -/

/-- **The transaction was begun on its database**, and still is on it. -/
structure Held.Known (t : Held) (w : RunState σ) : Prop where
  begun : t.id < w.begun
  database : (w.handles t.id).database = t.origin

/-- **The transactions at hand, and the current one, are on their databases.** -/
structure Tracks (txs : Fin n → Held) (cur : Option Held) (c : Scope σ) (w : RunState σ) :
    Prop where
  held : ∀ h, (txs h).Known w
  current : ∀ t ∈ cur, t.Known w
  ambient : c.ambient = cur.map Held.id

section Tracks

variable {databases : Nat → Database σ} {txs : Fin n → Held} {cur : Option Held} {t : Held}
  {c : Scope σ} {w w' : RunState σ}

/-- A transaction stays on its database. -/
theorem Held.Known.keeps (h : t.Known w) (hw : Keeps w w') : t.Known w' where
  begun := Nat.lt_of_lt_of_le h.begun hw.begun
  database := by rw [hw.database t.id h.begun, h.database]

/-- **A transaction as a session** belongs to the database that it was begun on. -/
theorem Held.Known.eval_ofTransaction (h : t.Known w) :
    (Session.ofTransaction databases t.id).eval c w = (.ok (t.session databases), w) := by
  rw [Session.ofTransaction, eval_bind, eval_handleOf]
  dsimp only
  rw [h.database]
  rfl

namespace Tracks

/-- At the start of a task there is nothing to track. -/
theorem start (txs : Fin 0 → Held) (hc : c.ambient = none) (w : RunState σ) :
    Tracks txs none c w :=
  ⟨fun h => h.elim0, nofun, hc⟩

theorem keeps (h : Tracks txs cur c w) (hw : Keeps w w') : Tracks txs cur c w' where
  held i := (h.held i).keeps hw
  current t ht := (h.current t ht).keeps hw
  ambient := h.ambient

/-- One transaction more is at hand. -/
theorem cons (h : Tracks txs cur c w) (ht : t.Known w) :
    Tracks (Fin.cons t txs : Fin (n + 1) → Held) cur c w where
  held i := by
    cases i using Fin.cases with
    | zero => exact ht
    | succ i => exact h.held i
  current := h.current
  ambient := h.ambient

/-- A transaction becomes current. -/
theorem enter (h : Tracks txs cur c w) (ht : t.Known w) :
    Tracks (Fin.cons t txs : Fin (n + 1) → Held) (some t) { c with ambient := some t.id } w where
  held := (h.cons ht).held
  current := by
    rintro t' ⟨⟩
    exact ht
  ambient := rfl

/-- A deadline is none of its concerns. -/
theorem deadline (h : Tracks txs cur c w) (tick : Nat) :
    Tracks txs cur { c with deadlines := tick :: c.deadlines } w :=
  ⟨h.held, h.current, h.ambient⟩

/-- **The current transaction** is found with its database, unless it has been ended. -/
theorem eval_current (h : Tracks txs cur c w) :
    ∃ r, currentTransaction.eval c w = (.ok (r.map Held.id), w) ∧
      (unfinished cur).eval c w = (.ok r, w) ∧ ∀ t ∈ r, t.Known w := by
  simp only [currentTransaction, eval_bind, eval_read, h.ambient]
  cases cur with
  | none => exact ⟨none, rfl, rfl, nofun⟩
  | some t =>
    simp only [Option.map_some, unfinished, eval_bind, eval_isDone, eval_pure]
    cases (w.handles t.id).done with
    | true => exact ⟨none, rfl, rfl, nofun⟩
    | false =>
      refine ⟨some t, rfl, rfl, ?_⟩
      rintro t' ⟨⟩
      exact h.current t rfl

end Tracks

/-- The number of one transaction more. -/
theorem ids_cons (t : Held) (txs : Fin n → Held) :
    (fun h => ((Fin.cons t txs : Fin (n + 1) → Held) h).id) =
      (Fin.cons t.id fun h => (txs h).id : Fin (n + 1) → Nat) := by
  funext h
  cases h using Fin.cases with
  | zero => rfl
  | succ h => rfl

end Tracks

/-! ## Transactions of their own -/

/-- Programs come to the same if they begin alike, steadily, and go on alike. -/
theorem eval_bind_congr {x y : Run σ α} {f g : α → Run σ β} {c : Scope σ} {w : RunState σ}
    (hx : x.Steady) (hxy : x.eval c w = y.eval c w)
    (hfg : ∀ a w', x.eval c w = (.ok a, w') → Keeps w w' → (f a).eval c w' = (g a).eval c w') :
    (x >>= f).eval c w = (y >>= g).eval c w := by
  have hw := hx c w
  rw [eval_bind, eval_bind, ← hxy]
  rcases heval : x.eval c w with ⟨i | a, w'⟩
  · rfl
  · rw [heval] at hw
    exact hfg a w' heval hw

section Own

variable {i id : Nat} {d : Database σ} {options : TransactionOptions} {c : Scope σ}
  {w w' : RunState σ} {body body' : Nat → Run σ (Ending α)}

/-- **A transaction that has begun** is on the database that began it. -/
theorem known_of_begin (h : (beginTransaction i d options).eval c w = (.ok (.ok id), w')) :
    (⟨id, i⟩ : Held).Known w' := by
  obtain ⟨delay, now, -, rfl, rfl⟩ := of_eval_beginTransaction h
  exact ⟨Nat.lt_succ_self _, by simp [Handle.opened]⟩

/-- Bodies that come to the same in a transaction on their database do so in one of their own. -/
theorem eval_doOwn_congr (hbody : ∀ id w', Keeps w w' → (⟨id, i⟩ : Held).Known w' →
      (body id).eval c w' = (body' id).eval c w') :
    (doOwn i d options body).eval c w = (doOwn i d options body').eval c w := by
  rw [doOwn, doOwn, doTransaction, doTransaction]
  refine eval_bind_congr (steady_beginTransaction i d options) rfl fun begun w' h hw => ?_
  cases begun with
  | error e => rfl
  | ok id =>
    refine eval_andFinally_congr ?_ _
    simp only [eval_bind, hbody id w' hw (known_of_begin h)]

/-- **The transaction of a body** is on the database that began it, also after the body. -/
theorem known_of_doOwn {ending : Ending α} (hbody : ∀ id, (body id).Steady)
    (h : (doOwn i d options body).eval c w = (.ok (ending, some id), w')) :
    (⟨id, i⟩ : Held).Known w' := by
  rw [doOwn, doTransaction, eval_bind] at h
  rcases hbegin : (beginTransaction i d options).eval c w with ⟨j | e | id₁, w₁⟩ <;>
    rw [hbegin] at h
  · cases h
  · cases h
  · -- What is handed on is the transaction that was begun.
    have hid : id₁ = id := by
      obtain ⟨w₂, hsettled⟩ := of_eval_andFinally h
      simp only [eval_bind] at hsettled
      rcases hx : (body id₁).eval c w₁ with ⟨j | ending₁, w₃⟩ <;> rw [hx] at hsettled
      · cases hsettled
      · simp only [eval_pure] at hsettled
        rcases hend : (settle id₁ ending₁).eval c w₃ with ⟨j | ending₂, w₄⟩ <;>
          rw [hend] at hsettled
        · cases hsettled
        · cases hsettled
          rfl
    have hkeeps := steady_settled id₁ ((hbody id₁).bind fun ending => .pure (ending, id₁)) c w₁
    have hw' : w' = _ := (congrArg Prod.snd h).symm
    rw [← hid, hw']
    exact (known_of_begin hbegin).keeps hkeeps

/-- A body in a transaction of its own, and what follows it. -/
theorem eval_doOwn_bind {k k' : Ending α × Option Nat → Run σ β} (hsteady : ∀ id, (body id).Steady)
    (hbody : ∀ id w', Keeps w w' → (⟨id, i⟩ : Held).Known w' →
      (body id).eval c w' = (body' id).eval c w')
    (hk : ∀ ending id w', Keeps w w' → (⟨id, i⟩ : Held).Known w' →
      (k (ending, some id)).eval c w' = (k' (ending, some id)).eval c w')
    (hother : ∀ ending w', Keeps w w' →
      (k (ending, none)).eval c w' = (k' (ending, none)).eval c w') :
    (doOwn i d options body >>= k).eval c w = (doOwn i d options body' >>= k').eval c w := by
  refine eval_bind_congr (steady_doOwn i d options hsteady) (eval_doOwn_congr hbody) ?_
  rintro ⟨ending, _ | id⟩ w' h hw
  · exact hother ending w' hw
  · exact hk ending id w' hw (known_of_doOwn hsteady h)

end Own

/-! ## Errands -/

/-- The program of an errand does what the errand does with every transaction on the database that
it was begun on, wherever it runs. -/
def Errand.Follows (databases : Nat → Database σ) (errand : Errand σ α n) : Prop :=
  ∀ ⦃txs : Fin n → Held⦄ ⦃cur : Option Held⦄ ⦃c : Scope σ⦄ ⦃w : RunState σ⦄, Tracks txs cur c w →
    (errand.run databases fun h => (txs h).id).eval c w =
      (errand.runFrom databases txs cur).eval c w

namespace Errand

variable {databases : Nat → Database σ} {asked : Nat} {options : TransactionOptions}
  {body : Errand σ α (n + 1)} {next : Ending α → Errand σ α (n + 1)}
  {otherwise : Ending α → Errand σ α n}

/-- With one transaction more. -/
theorem Follows.cons {errand : Errand σ α (n + 1)} (h : errand.Follows databases)
    {txs : Fin n → Held} {cur : Option Held} {c : Scope σ} {w : RunState σ} {t : Held}
    (hw : Tracks (Fin.cons t txs : Fin (n + 1) → Held) cur c w) :
    (errand.run databases (Fin.cons t.id fun h => (txs h).id)).eval c w =
      (errand.runFrom databases (Fin.cons t txs) cur).eval c w := by
  rw [← ids_cons]
  exact h hw

theorem follows_operate (hdatabases : ∀ i, ∀ a ∈ (databases i).middlewares, a.Steady) {h : Fin n}
    {e : Entity} {stmt : Statement} {d : Demand} {next : Except Error d.Result → Errand σ α n}
    (hnext : ∀ r, (next r).Follows databases) :
    (operate h e stmt d next).Follows databases := by
  intro txs cur c w hw
  rw [run, runFrom, eval_bind, (hw.held h).eval_ofTransaction]
  refine eval_bind_congr (Session.steady_ask _ (hdatabases _) e stmt d) rfl fun r w' _ hw' => ?_
  exact hnext r (hw.keeps hw')

theorem follows_current {found : Errand σ α (n + 1)} {missing : Errand σ α n}
    (hfound : found.Follows databases) (hmissing : missing.Follows databases) :
    (current found missing).Follows databases := by
  intro txs cur c w hw
  obtain ⟨r, hcurrent, hunfinished, hr⟩ := hw.eval_current
  rw [run, runFrom, eval_bind, eval_bind, hcurrent, hunfinished]
  cases r with
  | none => exact hmissing hw
  | some t => exact hfound.cons (hw.cons (hr t rfl))

theorem follows_within (hdatabases : ∀ i, ∀ a ∈ (databases i).middlewares, a.Steady)
    {span : Duration} {body : Errand σ α n} {next : Option (Ending α) → Errand σ α n}
    (hbody : body.Follows databases) (hnext : ∀ r, (next r).Follows databases) :
    (within span body next).Follows databases := by
  intro txs cur c w hw
  rw [run, runFrom, eval_bind, eval_bind, eval_get]
  refine eval_bind_congr (steady_withDeadline _ (body.steady hdatabases _)) ?_
    fun r w' _ hw' => hnext r (hw.keeps hw')
  rw [eval_withDeadline, eval_withDeadline, hbody (hw.deadline _)]

theorem follows_own (hdatabases : ∀ i, ∀ a ∈ (databases i).middlewares, a.Steady)
    (hbody : body.Follows databases) (hnext : ∀ ending, (next ending).Follows databases)
    (hotherwise : ∀ ending, (otherwise ending).Follows databases) :
    (own asked options body next otherwise).Follows databases := by
  intro txs cur c w hw
  rw [run, runFrom]
  refine eval_doOwn_bind (fun id => body.steady hdatabases _) ?_ ?_ ?_
  · intro id w' hw' ht
    exact hbody.cons ((hw.keeps hw').cons ht)
  · intro ending id w' hw' ht
    exact (hnext ending).cons ((hw.keeps hw').cons ht)
  · intro ending w' hw'
    exact hotherwise ending (hw.keeps hw')

/-- An ambient transaction where one is current. -/
theorem eval_run_ambient_some {ids : Fin n → Nat} {id : Nat} {c : Scope σ} {w : RunState σ}
    (hcurrent : currentTransaction.eval c w = (.ok (some id), w)) :
    ((ambient asked options body next otherwise).run databases ids).eval c w =
      Run.eval (do
        let ending ← body.run databases (Fin.cons id ids)
        (next ending).run databases (Fin.cons id ids)) c w := by
  simp only [run, doAmbient, eval_bind, hcurrent, eval_pure]
  rcases (body.run databases (Fin.cons id ids)).eval c w with ⟨i | ending, w'⟩
  · rfl
  · rfl

/-- An ambient transaction where none is current. -/
theorem eval_run_ambient_none {ids : Fin n → Nat} {c : Scope σ} {w : RunState σ}
    (hcurrent : currentTransaction.eval c w = (.ok none, w)) :
    ((ambient asked options body next otherwise).run databases ids).eval c w =
      Run.eval (do
        match ← doOwn asked (databases asked) options fun id =>
          withReader (fun c => { c with ambient := some id })
            (body.run databases (Fin.cons id ids)) with
        | (ending, some id) => (next ending).run databases (Fin.cons id ids)
        | (ending, none) => (otherwise ending).run databases ids) c w := by
  rw [run, doAmbient, bind_assoc, eval_bind, hcurrent]
  rfl

theorem follows_ambient (hdatabases : ∀ i, ∀ a ∈ (databases i).middlewares, a.Steady)
    (hbody : body.Follows databases) (hnext : ∀ ending, (next ending).Follows databases)
    (hotherwise : ∀ ending, (otherwise ending).Follows databases) :
    (ambient asked options body next otherwise).Follows databases := by
  intro txs cur c w hw
  obtain ⟨r, hcurrent, hunfinished, hr⟩ := hw.eval_current
  rw [runFrom, eval_bind, hunfinished]
  cases r with
  | some t =>
    have ht := hw.cons (hr t rfl)
    rw [eval_run_ambient_some hcurrent]
    refine eval_bind_congr (body.steady hdatabases _) (hbody.cons ht) fun ending w' _ hw' => ?_
    exact (hnext ending).cons (ht.keeps hw')
  | none =>
    rw [eval_run_ambient_none hcurrent]
    refine eval_doOwn_bind (fun id => (body.steady hdatabases _).withReader _) ?_ ?_ ?_
    · intro id w' hw' ht
      rw [eval_withReader, eval_withReader]
      exact hbody.cons ((hw.keeps hw').enter ht)
    · intro ending id w' hw' ht
      exact (hnext ending).cons ((hw.keeps hw').cons ht)
    · intro ending w' hw'
      exact hotherwise ending (hw.keeps hw')

/-- **Errands leave every transaction on the database that it was begun on.** -/
theorem follows (hdatabases : ∀ i, ∀ a ∈ (databases i).middlewares, a.Steady)
    (errand : Errand σ α n) : errand.Follows databases := by
  induction errand with
  | finish ending => exact fun _ _ _ _ _ => rfl
  | act x hx next ih =>
    intro txs cur c w hw
    rw [run, runFrom]
    exact eval_bind_congr (hx _) rfl fun b w' _ hw' => ih b (hw.keeps hw')
  | operate h e stmt d next ih => exact follows_operate hdatabases ih
  | current found missing ihfound ihmissing => exact follows_current ihfound ihmissing
  | within span body next ihbody ihnext => exact follows_within hdatabases ihbody ihnext
  | own asked options body next otherwise ihbody ihnext ihotherwise =>
    exact follows_own hdatabases ihbody ihnext ihotherwise
  | ambient asked options body next otherwise ihbody ihnext ihotherwise =>
    exact follows_ambient hdatabases ihbody ihnext ihotherwise

end Errand

/-! ## Tasks -/

/-- **A statement is left to the database of its transaction.** What the caller gets has come
through the middlewares of that database; the statement is compiled in its dialect, with the model
that its registry has; and the last stage makes at most one step of its driver, and none of any
other. -/
structure Served (databases : Nat → Database σ) (t : Held) (c : Scope σ) (e : Entity)
    (stmt : Statement) (d : Demand) : Prop where
  asked : ∀ w, Asked (t.session databases) c e stmt d w
    (((t.session databases).ask e stmt d).eval c w)
  compiled : ∀ m w w₁, (∀ q, stmt ≠ .handwritten q) → stmt.refusal? = none →
    (modelOf (databases t.origin).settings.registry e).eval c w = (.ok (.ok m), w₁) →
    ∃ w', ((t.session databases).build e stmt).eval c w =
      (.ok (stmt.compile (databases t.origin).settings.dialect m
        (readField (databases t.origin).settings.accessor e m)), w')
  driven : ∀ m p,
    let s := t.session databases
    let w' := (outcome c (s.perform e d (s.callOf e stmt m)) p).2
    w'.states = p.state.states ∨
      ∃ q, (p.kept = some q ∨ ∃ w₁, (s.build e stmt).eval c p.state = (.ok (.ok q), w₁)) ∧
        w'.states = update p.state.states t.origin
          (d.next c.driver true q (p.state.states t.origin))

theorem served (databases : Nat → Database σ) (t : Held) (c : Scope σ) (e : Entity)
    (stmt : Statement) (d : Demand) : Served databases t c e stmt d where
  asked := (t.session databases).asked c e stmt d
  compiled := by
    intro m w w₁ hstmt hrefusal hm
    obtain ⟨w', h, -⟩ := Session.eval_build_compiled (s := t.session databases) stmt hm
    rw [Session.compiled_of_no_refusal _ e m hstmt hrefusal] at h
    exact ⟨w', h⟩
  driven m p := (t.session databases).perform_states e stmt m d c p

/-- **Ambient transactions follow the one that is current.** A task that starts without one does
what it does with every transaction on the database that it was begun on: the one that was asked,
or, where a transaction is current that has not been ended, the one that this transaction was begun
on. That database is the one that statements on the transaction are left to. -/
theorem ambient_follows_origin {databases : Nat → Database σ}
    (hdatabases : ∀ i, ∀ a ∈ (databases i).middlewares, a.Steady) (task : Errand σ α 0)
    (c : Scope σ) (hc : c.ambient = none) (w : RunState σ) :
    (task.run databases Fin.elim0).eval c w = (task.runFrom databases Fin.elim0 none).eval c w ∧
      ∀ t c e stmt d, Served databases t c e stmt d := by
  refine ⟨?_, served databases⟩
  have hrun := task.follows hdatabases (.start Fin.elim0 hc w)
  have hids : (fun h => Held.id ((Fin.elim0 : Fin 0 → Held) h)) = Fin.elim0 := by
    funext h
    exact h.elim0
  rwa [hids] at hrun

/-- Two databases of different dialects, with a stage of their own each. -/
def twoDatabases : Nat → Database (Scripted.State × List DriverCall)
  | 0 => ⟨⟨.mysql, .byName, 1, none, 0⟩, [(Scenario.Stage.record "first").middleware 0]⟩
  | _ + 1 => ⟨⟨.postgres, .byName, 1, none, 1⟩, [(Scenario.Stage.record "second").middleware 1]⟩

/-- A deletion in an ambient transaction that the second database is asked for. -/
def deletionOnSecond (n : Nat) : Errand (Scripted.State × List DriverCall) Unit n :=
  .ambient 1 .standard
    (.operate 0 guest (.delete ⟨none, []⟩) .exec fun _ => .finish (.ok ())) .finish .finish

/-- The same after the end of an ambient transaction of the first database. -/
def relayedDeletion : Errand (Scripted.State × List DriverCall) Unit 0 :=
  .ambient 0 .standard (.finish (.ok ())) (fun _ => deletionOnSecond 1) .finish

/-- The same while a transaction of the first database is current. -/
def crossedDeletion : Errand (Scripted.State × List DriverCall) Unit 0 :=
  .ambient 0 .standard (deletionOnSecond 1) .finish .finish

/-- The scope at the start, with a record of the calls of drivers. -/
def recordedScope : Scope (Scripted.State × List DriverCall) :=
  (Scenario.startScope Scripted.driver).recording

/-- A transaction that the second database begins is on the second database. -/
theorem relayedDeletion_follows :
    (∀ i, ∀ a ∈ (twoDatabases i).middlewares, a.Steady) ∧ recordedScope.ambient = none ∧
    ∃ w', (relayedDeletion.run twoDatabases Fin.elim0).eval recordedScope watchedState =
        (.ok (.ok ()), w') ∧
      (relayedDeletion.runFrom twoDatabases Fin.elim0 none).eval recordedScope watchedState =
        (.ok (.ok ()), w') ∧
      Served twoDatabases ⟨1, 1⟩ recordedScope guest (.delete ⟨none, []⟩) .exec ∧
      w'.calls 0 = [.beginTransaction .standard (.answered ⟨0⟩ (.ok ())),
        .commit (.answered ⟨0⟩ (.ok ()))] ∧
      w'.calls 1 = [.beginTransaction .standard (.answered ⟨0⟩ (.ok ())),
        .execute ⟨"DELETE FROM \"guests\";", []⟩ (.answered ⟨0⟩ (.ok ⟨1, none⟩)),
        .commit (.answered ⟨0⟩ (.ok ()))] ∧
      w'.log = [.line "second:before:DELETE", .line "second:after:false"] := by
  have hdatabases : ∀ i, ∀ a ∈ (twoDatabases i).middlewares, a.Steady := by
    intro i
    cases i with
    | zero => exact List.forall_mem_singleton.mpr (Scenario.Stage.steady 0 _)
    | succ i => exact List.forall_mem_singleton.mpr (Scenario.Stage.steady 1 _)
  have hc : recordedScope.ambient = none := rfl
  obtain ⟨hrun, hserved⟩ :=
    ambient_follows_origin hdatabases relayedDeletion recordedScope hc watchedState
  have hdone : ∃ w', (relayedDeletion.run twoDatabases Fin.elim0).eval recordedScope watchedState =
      (.ok (.ok ()), w') ∧
      w'.calls 0 = [.beginTransaction .standard (.answered ⟨0⟩ (.ok ())),
        .commit (.answered ⟨0⟩ (.ok ()))] ∧
      w'.calls 1 = [.beginTransaction .standard (.answered ⟨0⟩ (.ok ())),
        .execute ⟨"DELETE FROM \"guests\";", []⟩ (.answered ⟨0⟩ (.ok ⟨1, none⟩)),
        .commit (.answered ⟨0⟩ (.ok ()))] ∧
      w'.log = [.line "second:before:DELETE", .line "second:after:false"] := by
    simp only [relayedDeletion, deletionOnSecond, Errand.run]
    exact ⟨_, rfl, rfl, rfl, rfl⟩
  obtain ⟨w', heval, hcalls⟩ := hdone
  exact ⟨hdatabases, hc, w', heval, hrun.symm.trans heval, hserved _ _ _ _ _, hcalls⟩

/-- **The second database is asked, and the first one gets the statement**, in its own dialect and
through its own middleware, where a transaction of the first database is current. -/
theorem crossedDeletion_on_first :
    ∃ w', (crossedDeletion.run twoDatabases Fin.elim0).eval recordedScope watchedState =
        (.ok (.ok ()), w') ∧
      w'.calls 0 = [.beginTransaction .standard (.answered ⟨0⟩ (.ok ())),
        .execute ⟨"DELETE FROM `guests`;", []⟩ (.answered ⟨0⟩ (.ok ⟨1, none⟩)),
        .commit (.answered ⟨0⟩ (.ok ()))] ∧
      w'.calls 1 = [] ∧
      w'.log = [.line "first:before:DELETE", .line "first:after:false"] := by
  simp only [crossedDeletion, deletionOnSecond, Errand.run]
  exact ⟨_, rfl, rfl, rfl, rfl⟩

end EntityMapper
