import EntityMapper.Proofs.Session.Log
import EntityMapper.Proofs.Text.Boundary

/-!
# Excerpts of statements in logs

A log that cuts long statements leaves notices with their longest beginnings within its limit. What
was cut shows by three dots, which are there exactly if the statement is longer than the limit.

## Main definitions

* `QueryLog.Emits l sql shown`: the text with which a log reports a statement

## Main results

* `QueryLog.shownSql_eq`: what is shown of a statement, given what it is cut to
* `QueryLog.emits_excerpt`: a log emits the longest beginning within its limit
-/

namespace EntityMapper

open EntityMapper.Sql EntityMapper.Text

namespace QueryLog

/-- **A log emits a text** for a statement: wherever a call compiles to the statement, the log leaves
one notice, with this text and the arguments of the statement, and does no more than hand the call
on. -/
def Emits (l : QueryLog) (sql shown : String) : Prop :=
  ∀ (σ : Type) (callback : Query → Run σ Unit) (next : Handler (Run σ)) (call : Call (Run σ))
    (c : Scope σ) (p p₁ : Point σ) (args : List Value),
    Reaches c call.query p (.ok ⟨sql, args⟩) p₁ →
    outcome c (l.middleware report callback next call) p =
      outcome c (next call) ⟨p₁.kept, { p₁.state with
        trace := p₁.state.trace ++ [.logged l.level call.queryType call.model.table shown args] }⟩

variable {l : QueryLog}

/-- A log without a callback emits what it shows. -/
theorem emits_shownSql (hcallback : l.hasCallback = false) (sql : String) :
    l.Emits sql (l.shownSql sql) := by
  intro σ callback next call c p p₁ args hquery
  have htold : Reaches c (liftM (l.tell callback call ⟨sql, args⟩) : Part σ Unit) p₁ ()
      ⟨p₁.kept, { p₁.state with trace := p₁.state.trace ++
        [.logged l.level call.queryType call.model.table (l.shownSql sql) args] }⟩ := by
    rw [tell, hcallback]
    rfl
  have hmiddleware : outcome c (l.middleware report callback next call >>= pure) p = _ :=
    outcome_middleware_of_ok hquery next pure
  rw [bind_pure, htold.outcome_bind, bind_pure] at hmiddleware
  exact hmiddleware

/-- What is shown of a statement, given what it is cut to. -/
theorem shownSql_eq {limit : Nat} (hlimit : l.maxLength = some limit) {sql t : String}
    (ht : cutText? limit sql = some t) (hlongest : LongestWithin limit sql t) :
    l.shownSql sql = t ++ if limit < sql.utf8ByteSize then "..." else "" := by
  have hcut : cutText limit sql = t := Option.get_of_eq_some _ ht
  rw [shownSql, hlimit, utf8Length_toList]
  dsimp only
  split
  · rw [hcut]
  · next hfits => rw [hlongest.eq_self (Nat.le_of_not_lt hfits), String.append_empty]

/-- **Statements are cut to their longest beginnings.** Cutting a text never asks for a part of it
that ends beyond it or inside a character. It gives the longest beginning within the limit, which is
the whole of a text that keeps the limit; and this is what a log emits, with three dots behind it
exactly if the text is longer. -/
theorem emits_excerpt (limit : Nat) (sql : String) :
    ∃ t, cutText? limit sql = some t ∧ LongestWithin limit sql t ∧
      (sql.utf8ByteSize ≤ limit → t = sql) ∧
      ∀ level : TraceLevel, QueryLog.Emits ⟨level, some limit, false⟩ sql
        (t ++ if limit < sql.utf8ByteSize then "..." else "") := by
  obtain ⟨t, ht, hlongest⟩ := exists_cutText?_eq limit sql
  refine ⟨t, ht, hlongest, hlongest.eq_self, fun level => ?_⟩
  rw [← shownSql_eq (l := ⟨level, some limit, false⟩) rfl ht hlongest]
  exact emits_shownSql rfl sql

/-- A statement of eleven bytes with a character of two bytes across the limit of nine. -/
def accentedQuery : Query := ⟨"SELECT 'é'", []⟩

/-- The character across the limit goes as a whole, and the notice says that something was cut. -/
theorem accentedQuery_excerpt :
    cutText? 9 "SELECT 'é'" = some "SELECT '" ∧ LongestWithin 9 "SELECT 'é'" "SELECT '" ∧
    let call := frontDesk.callOf guest (.handwritten accentedQuery) guestModel
    Reaches guestScope call.query ⟨none, watchedState⟩ (.ok accentedQuery)
      ⟨some accentedQuery, watchedState⟩ ∧
    outcome guestScope ((⟨.info, some 9, false⟩ : QueryLog).middleware report noteStatement
        (frontDesk.perform guest .exec) call) ⟨none, watchedState⟩ =
      outcome guestScope (frontDesk.perform guest .exec call) ⟨some accentedQuery,
        { watchedState with trace := [.logged .info .select "guests" "SELECT '..." []] }⟩ := by
  obtain ⟨t, hcut, hlongest, -, hemits⟩ := emits_excerpt 9 "SELECT 'é'"
  have hcut' : cutText? 9 "SELECT 'é'" = some "SELECT '" := by decide
  obtain rfl : t = "SELECT '" := Option.some.inj (hcut.symm.trans hcut')
  have hquery : Reaches guestScope
      (frontDesk.callOf guest (.handwritten accentedQuery) guestModel).query ⟨none, watchedState⟩
      (.ok accentedQuery) ⟨some accentedQuery, watchedState⟩ := rfl
  have hemitted := hemits .info _ noteStatement (frontDesk.perform guest .exec) _ guestScope _ _ []
    hquery
  exact ⟨hcut, hlongest, hquery, hemitted⟩

end QueryLog

end EntityMapper
