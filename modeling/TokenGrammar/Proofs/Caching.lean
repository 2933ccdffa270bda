import TokenGrammar.Proofs.Compilation
import Mathlib.Data.List.Forall2

/-!
# Parsers that keep what they compile

An argument parser keeps the token parser of its first parse, and drops it where its grammar
changes. What it answers is what it would answer if it kept nothing. The specification is a draft:
the accepted declarations as they were made, compiled anew at each request.

* `Request`, `Response`, `Event`: what is asked of one argument parser among many, which may be
  clones of each other, in any order;
* `caching`: argument parsers as they are. `drafting`: drafts;
* `ArgumentParser.Keeps`: an argument parser has the grammar of a draft, and keeps that token parser
  or none. Requests keep this up, and are answered alike (`ArgumentParser.Keeps.serve`);
* `caching_never_stale`: what is kept is what the accepted declarations compile to, after any
  events.
-/

namespace TokenGrammar

/-! ## Requests and events -/

/-- What can be asked of an argument parser. -/
inductive Request where
  | setPrefixChars (prefixChars : String)
  | setIgnoreCase (ignoreCase : Bool)
  | setDefaults (defaults : ArgumentDefaults)
  | setDest (dest : Dest)
  | setAction (action : Action)
  | setRawDest (rawDest : List String)
  | setRawFormat (format : RawFormat)
  | addArgument (a : Argument)
  | setDefault (dest : String) (value : Value)
  | parse (tokens : List String) (attributes : Option Namespace)
  | parseKnown (tokens : List String) (attributes : Option Namespace) (unknownDest : List String)

/-- What is answered. -/
inductive Response where
  | done
  | declared (rule : Rule)
  | refused (cause : GrammarError)
  | parsed (result : Except Error Namespace)
  | parsedKnown (result : Except Error (Namespace × List String))

/-- The answer is that of a parse, or of a declaration that was refused. -/
def Response.Idle : Response → Prop
  | .refused _ | .parsed _ | .parsedKnown _ => True
  | .done | .declared _ => False

/-- What happens to argument parsers, which are known by the order in which they were made. -/
inductive Event where
  | new (settings : Settings)
  | clone (index : Nat)
  | call (index : Nat) (request : Request)

/-- The event is a request of this argument parser. -/
def Event.Calls (index : Nat) : Event → Prop
  | .call i _ => i = index
  | .new _ | .clone _ => False

/-! ## Services -/

/-- How members are made, and how each of them serves a request. -/
structure Service (σ : Type) where
  new : Settings → σ
  serve : σ → Request → Response × σ

namespace Service

section

variable {σ : Type} (service : Service σ)

/-- One event: the answer, if there is a request that is served, and the members from then on. -/
def step (members : List σ) : Event → Option Response × List σ
  | .new settings => (none, members ++ [service.new settings])
  | .clone i => (none, members ++ members[i]?.toList)
  | .call i request =>
    match members[i]? with
    | none => (none, members)
    | some member =>
      (some (service.serve member request).1, members.set i (service.serve member request).2)

/-- The members after events. -/
def after (members : List σ) : List Event → List σ
  | [] => members
  | event :: events => after (service.step members event).2 events

/-- The answers to events. -/
def respond (members : List σ) : List Event → List (Option Response)
  | [] => []
  | event :: events =>
    (service.step members event).1 :: respond (service.step members event).2 events

/-- A member has nothing to do with events that are no requests of it. -/
theorem getElem?_after {members : List σ} {i : Nat} (hi : i < members.length) {events : List Event}
    (h : ∀ event ∈ events, ¬ event.Calls i) :
    (service.after members events)[i]? = members[i]? := by
  induction events generalizing members with
  | nil => rfl
  | cons event events ih =>
    obtain ⟨hevent, hevents⟩ := List.forall_mem_cons.mp h
    rw [after]
    have hstep : i < (service.step members event).2.length ∧
        (service.step members event).2[i]? = members[i]? := by
      cases event with
      | new settings =>
        exact ⟨(List.length_append ▸ by omega), List.getElem?_append_left hi⟩
      | clone j =>
        exact ⟨(List.length_append ▸ by omega), List.getElem?_append_left hi⟩
      | call j request =>
        rw [step]
        split
        · exact ⟨hi, rfl⟩
        · exact ⟨by rwa [List.length_set], List.getElem?_set_ne hevent⟩
    rw [ih hstep.1 hevents, hstep.2]

/-- What a member answers depends on nothing but the member. -/
theorem respond_calls {members others : List σ} {i : Nat} (h : members[i]? = others[i]?)
    (requests : List Request) :
    service.respond members (requests.map (.call i)) =
      service.respond others (requests.map (.call i)) := by
  induction requests generalizing members others with
  | nil => rfl
  | cons request requests ih =>
    rw [List.map_cons, respond, respond, step, step, h]
    cases hmember : others[i]? with
    | none => exact congrArg _ (ih h)
    | some member =>
      refine congrArg _ (ih ?_)
      have hlt : i < others.length := (List.getElem?_eq_some_iff.mp hmember).1
      have hlt' : i < members.length := (List.getElem?_eq_some_iff.mp (h.trans hmember)).1
      rw [List.getElem?_set_self hlt, List.getElem?_set_self hlt']

end

section

variable {σ τ : Type} {service : Service σ} {spec : Service τ} {R : σ → τ → Prop}

/-- Related lists have related members at the same places. -/
theorem forall₂_getElem? {as : List σ} {bs : List τ} (h : List.Forall₂ R as bs) (i : Nat) :
    (as[i]? = none ∧ bs[i]? = none) ∨ ∃ a b, as[i]? = some a ∧ bs[i]? = some b ∧ R a b := by
  induction h generalizing i with
  | nil => exact .inl ⟨rfl, rfl⟩
  | @cons a b as bs hab _ ih =>
    cases i with
    | zero => exact .inr ⟨a, b, rfl, rfl, hab⟩
    | succ i => exact ih i

theorem forall₂_set {as : List σ} {bs : List τ} (h : List.Forall₂ R as bs) (i : Nat) {a : σ} {b : τ}
    (hab : R a b) : List.Forall₂ R (as.set i a) (bs.set i b) := by
  induction h generalizing i with
  | nil => exact .nil
  | cons hcd htail ih =>
    cases i with
    | zero => exact .cons hab htail
    | succ i => exact .cons hcd (ih i)

variable (hnew : ∀ settings, R (service.new settings) (spec.new settings))
  (hserve : ∀ {a b} request, R a b → (service.serve a request).1 = (spec.serve b request).1 ∧
    R (service.serve a request).2 (spec.serve b request).2)

include hnew hserve

/-- Where related members serve alike, an event is answered alike and leaves them related. -/
theorem step_related {as : List σ} {bs : List τ} (h : List.Forall₂ R as bs) (event : Event) :
    (service.step as event).1 = (spec.step bs event).1 ∧
      List.Forall₂ R (service.step as event).2 (spec.step bs event).2 := by
  cases event with
  | new settings => exact ⟨rfl, List.rel_append h (.cons (hnew settings) .nil)⟩
  | clone i =>
    refine ⟨rfl, List.rel_append h ?_⟩
    obtain ⟨ha, hb⟩ | ⟨a, b, ha, hb, hab⟩ := forall₂_getElem? h i <;> rw [ha, hb]
    · exact .nil
    · exact .cons hab .nil
  | call i request =>
    rw [step, step]
    obtain ⟨ha, hb⟩ | ⟨a, b, ha, hb, hab⟩ := forall₂_getElem? h i <;> rw [ha, hb]
    · exact ⟨rfl, h⟩
    · obtain ⟨hanswer, hnext⟩ := hserve request hab
      exact ⟨congrArg some hanswer, forall₂_set h i hnext⟩

/-- So are any number of events. -/
theorem related {as : List σ} {bs : List τ} (h : List.Forall₂ R as bs) (events : List Event) :
    service.respond as events = spec.respond bs events ∧
      List.Forall₂ R (service.after as events) (spec.after bs events) := by
  induction events generalizing as bs with
  | nil => exact ⟨rfl, h⟩
  | cons event events ih =>
    obtain ⟨hanswer, hnext⟩ := step_related hnew hserve h event
    obtain ⟨hanswers, hlast⟩ := ih hnext
    refine ⟨?_, hlast⟩
    rw [respond, respond, hanswer, hanswers]

end

end Service

/-! ## Argument parsers and drafts -/

/-- Argument parsers, which keep what they compile until their grammar changes. -/
def caching : Service ArgumentParser where
  new settings := { settings }
  serve p
    | .setPrefixChars prefixChars => (.done, p.setPrefixChars prefixChars)
    | .setIgnoreCase ignoreCase => (.done, p.setIgnoreCase ignoreCase)
    | .setDefaults defaults => (.done, p.setDefaults defaults)
    | .setDest dest => (.done, p.setDest dest)
    | .setAction action => (.done, p.setAction action)
    | .setRawDest rawDest => (.done, p.setRawDest rawDest)
    | .setRawFormat format => (.done, p.setRawFormat format)
    | .addArgument a =>
      match p.addArgument a with
      | .ok (rule, q) => (.declared rule, q)
      | .error e => (.refused e, p)
    | .setDefault dest value => (.done, p.setDefault dest value)
    | .parse tokens attributes =>
      ((p.parse tokens attributes).map .parsed id)
    | .parseKnown tokens attributes unknownDest =>
      ((p.parseKnown tokens attributes unknownDest).map .parsedKnown id)

/-- The declarations that were accepted, as they were made, and nothing that comes of them. -/
structure Draft where
  settings : Settings := {}
  defaults : ArgumentDefaults := {}
  calls : List Call := []

namespace Draft

/-- A token parser of the declarations, made afresh. -/
def driver (d : Draft) : Except GrammarError TokenParser := Call.compile 0 d.calls

/-- Adds an argument to the declarations, if it compiles behind them. -/
def declare (d : Draft) (a : Argument) : Except GrammarError (Rule × Draft) := do
  let driver ← d.driver
  let declaration ←
    Declaration.ofArgument (driver.rules.length * Declaration.width) a d.settings d.defaults
  return (declaration.rule,
    { d with calls := d.calls ++ [.argument d.settings (a.inherit d.defaults)] })

/-- What a token parser made afresh gives. -/
def parseWith {α : Type} (d : Draft) (run : TokenParser → Except Error α) : Except Error α :=
  match d.driver with
  | .ok driver => run driver
  | .error e => .error (.grammar e)

end Draft

/-- Drafts, which compile their declarations anew at each request. -/
def drafting : Service Draft where
  new settings := { settings }
  serve d
    | .setPrefixChars prefixChars =>
      (.done, { d with settings := { d.settings with prefixChars } })
    | .setIgnoreCase ignoreCase => (.done, { d with settings := { d.settings with ignoreCase } })
    | .setDefaults defaults => (.done, { d with defaults })
    | .setDest dest => (.done, { d with defaults := { d.defaults with dest } })
    | .setAction action => (.done, { d with defaults := { d.defaults with action := some action } })
    | .setRawDest rawDest => (.done, { d with defaults := { d.defaults with rawDest } })
    | .setRawFormat format =>
      (.done, { d with defaults := { d.defaults with rawFormat := some format } })
    | .addArgument a =>
      match d.declare a with
      | .ok (rule, next) => (.declared rule, next)
      | .error e => (.refused e, d)
    | .setDefault dest value => (.done, { d with calls := d.calls ++ [.default dest value] })
    | .parse tokens attributes => (.parsed (d.parseWith (·.parseStrict tokens attributes)), d)
    | .parseKnown tokens attributes unknownDest =>
      (.parsedKnown (d.parseWith (·.parseLenient tokens attributes unknownDest)), d)

namespace ArgumentParser

/-- The argument parser has the settings and the grammar of a draft, and the token parser that it
keeps, if it keeps one, is that of the draft. -/
structure Keeps (p : ArgumentParser) (d : Draft) : Prop where
  settings : p.settings = d.settings
  defaults : p.defaults = d.defaults
  grammar : d.driver = .ok ⟨p.rules, p.validators⟩
  kept : ∀ driver, p.compiled = some driver → d.driver = .ok driver

namespace Keeps

variable {p : ArgumentParser} {d : Draft}

/-- An argument parser that keeps nothing yet, or no longer. -/
theorem of_nothing (hkept : p.compiled = none) (hsettings : p.settings = d.settings)
    (hdefaults : p.defaults = d.defaults) (hgrammar : d.driver = .ok ⟨p.rules, p.validators⟩) :
    p.Keeps d := by
  refine ⟨hsettings, hdefaults, hgrammar, fun driver hdriver => ?_⟩
  rw [hkept] at hdriver
  contradiction

/-- The token parser that is kept, or made now, is that of the draft. -/
theorem driver_eq (h : p.Keeps d) : d.driver = .ok p.compile := by
  rw [compile]
  cases hkept : p.compiled with
  | none => exact h.grammar
  | some driver => exact h.kept driver hkept

theorem keepCompiled (h : p.Keeps d) : p.keepCompiled.Keeps d :=
  ⟨h.settings, h.defaults, h.grammar, fun _ hdriver => Option.some.inj hdriver ▸ h.driver_eq⟩

/-- Settings and defaults are no part of the grammar, and what is kept stays. -/
theorem tune (h : p.Keeps d) (settings : Settings) (defaults : ArgumentDefaults) :
    ({ p with settings, defaults } : ArgumentParser).Keeps { d with settings, defaults } :=
  ⟨rfl, rfl, h.grammar, h.kept⟩

/-- An argument is accepted or refused alike, and what was kept is dropped where it is accepted. -/
theorem addArgument (h : p.Keeps d) (a : Argument) :
    (∃ e, p.addArgument a = .error e ∧ d.declare a = .error e) ∨
      ∃ rule q next, p.addArgument a = .ok (rule, q) ∧ d.declare a = .ok (rule, next) ∧
        q.Keeps next := by
  rw [ArgumentParser.addArgument, Draft.declare, h.grammar, h.settings, h.defaults]
  dsimp only [bind, Except.bind, pure, Except.pure]
  cases hd : Declaration.ofArgument (p.rules.length * Declaration.width) a d.settings
    d.defaults with
  | error e => exact .inl ⟨e, rfl, rfl⟩
  | ok declaration =>
    refine .inr ⟨_, _, _, rfl, rfl, .of_nothing rfl rfl rfl ?_⟩
    refine Call.compile_append.mpr
      ⟨_, ⟨[declaration.rule], declaration.validators⟩, h.grammar, ?_, rfl⟩
    refine Call.compile_argument.mpr ⟨declaration, ⟨[], []⟩, ?_, rfl, by simp⟩
    rw [ofArgument_inherit, Nat.zero_add]
    exact hd

theorem setDefault (h : p.Keeps d) (dest : String) (value : Value) :
    (p.setDefault dest value).Keeps { d with calls := d.calls ++ [.default dest value] } := by
  refine .of_nothing rfl h.settings h.defaults ?_
  refine Call.compile_append.mpr ⟨_, ⟨[], [.default dest value]⟩, h.grammar, rfl, ?_⟩
  exact congrArg (TokenParser.mk · _) (List.append_nil p.rules).symm

theorem parseWith_eq {α : Type} (h : p.Keeps d) (run : TokenParser → Except Error α) :
    run p.compile = d.parseWith run := by
  rw [Draft.parseWith, h.driver_eq]

/-- A request is answered as the draft answers it, and what is kept is that of the draft
afterwards. -/
theorem serve (request : Request) (h : p.Keeps d) :
    (caching.serve p request).1 = (drafting.serve d request).1 ∧
      (caching.serve p request).2.Keeps (drafting.serve d request).2 := by
  cases request with
  | addArgument a =>
    simp only [caching, drafting]
    obtain ⟨e, hp, hd⟩ | ⟨rule, q, next, hp, hd, hnext⟩ := h.addArgument a <;> rw [hp, hd]
    · exact ⟨rfl, h⟩
    · exact ⟨rfl, hnext⟩
  | setDefault dest value => exact ⟨rfl, h.setDefault dest value⟩
  | parse tokens attributes =>
    have hresult := h.parseWith_eq (·.parseStrict tokens attributes)
    exact ⟨congrArg Response.parsed hresult, h.keepCompiled⟩
  | parseKnown tokens attributes unknownDest =>
    have hresult := h.parseWith_eq (·.parseLenient tokens attributes unknownDest)
    exact ⟨congrArg Response.parsedKnown hresult, h.keepCompiled⟩
  | _ =>
    -- Settings and defaults are the same on both sides, and so is what is made of them.
    obtain ⟨settings, defaults, rules, validators, compiled⟩ := p
    obtain ⟨rfl, rfl, -, -⟩ := id h
    exact ⟨rfl, h.tune _ _⟩

end Keeps

end ArgumentParser

namespace Draft

/-- A draft is the same behind an answer that is idle. -/
theorem serve_idle (d : Draft) (request : Request) (h : (drafting.serve d request).1.Idle) :
    (drafting.serve d request).2 = d := by
  cases request with
  | addArgument a =>
    simp only [drafting] at h ⊢
    split at h
    · exact h.elim
    · rfl
  | parse tokens attributes => rfl
  | parseKnown tokens attributes unknownDest => rfl
  | _ => exact h.elim

/-- So are all drafts. -/
theorem step_idle {drafts : List Draft} {event : Event} {response : Response}
    (hanswer : (drafting.step drafts event).1 = some response) (hidle : response.Idle) :
    (drafting.step drafts event).2 = drafts := by
  cases event with
  | new settings => cases hanswer
  | clone i => cases hanswer
  | call i request =>
    rw [Service.step] at hanswer ⊢
    cases hmember : drafts[i]? with
    | none => rfl
    | some d =>
      rw [hmember] at hanswer
      obtain rfl := Option.some.inj hanswer
      obtain ⟨hlt, rfl⟩ := List.getElem?_eq_some_iff.mp hmember
      show drafts.set i _ = drafts
      rw [serve_idle _ request hidle, List.set_getElem_self]

end Draft

/-! ## No stale token parser -/

/-- After any events, of any argument parsers:

* the token parser that one of them keeps has the rules and validators of its accepted declarations,
  in order;
* all answers, and so the results of all parses, are those of token parsers that are made afresh of
  the accepted declarations;
* parses, and declarations that are refused, change no later answer;
* events that are no requests of an argument parser change none of its answers, whether these are
  requests of its clones, of the one that it is a clone of, or of others. -/
theorem caching_never_stale (events : List Event) :
    List.Forall₂ (fun p d => ∀ driver, p.compiled = some driver →
        Call.compile 0 d.calls = .ok driver)
        (caching.after [] events) (drafting.after [] events) ∧
      caching.respond [] events = drafting.respond [] events ∧
      (∀ event response, (caching.step (caching.after [] events) event).1 = some response →
        response.Idle → ∀ later,
          caching.respond (caching.step (caching.after [] events) event).2 later =
            caching.respond (caching.after [] events) later) ∧
      ∀ i < (caching.after [] events).length, ∀ others, (∀ event ∈ others, ¬ event.Calls i) →
        ∀ requests : List Request,
          caching.respond (caching.after (caching.after [] events) others)
              (requests.map (.call i)) =
            caching.respond (caching.after [] events) (requests.map (.call i)) := by
  have hnew (settings : Settings) : (caching.new settings).Keeps (drafting.new settings) :=
    .of_nothing rfl rfl rfl rfl
  have hserve {p : ArgumentParser} {d : Draft} (request : Request) (h : p.Keeps d) :=
    h.serve request
  obtain ⟨hanswers, hmembers⟩ := Service.related hnew hserve .nil events
  refine ⟨hmembers.imp fun _ _ h => h.kept, hanswers, ?_, ?_⟩
  · intro event response hanswer hidle later
    obtain ⟨hsame, hnext⟩ := Service.step_related hnew hserve hmembers event
    rw [(Service.related hnew hserve hnext later).1, (Service.related hnew hserve hmembers later).1,
      Draft.step_idle (hsame.symm.trans hanswer) hidle]
  · intro i hi others hothers requests
    exact caching.respond_calls (caching.getElem?_after hi hothers) requests

/-- A parse between two declarations, and a clone that declares an argument of its own. -/
def clonedEvents : List Event :=
  [.new {}, .call 0 (.addArgument { names := ["-a"] }), .call 0 (.parse ["-b", "1"] none), .clone 0]

/-- A parse changes no later answer, and the original does not come to know the argument of its
clone. -/
theorem caching_never_stale_cloned :
    (∃ response,
      (caching.step (caching.after [] clonedEvents) (.call 0 (.parse ["-a", "1"] none))).1 =
          some response ∧ response.Idle ∧ ∀ later,
        caching.respond (caching.step (caching.after [] clonedEvents)
            (.call 0 (.parse ["-a", "1"] none))).2 later =
          caching.respond (caching.after [] clonedEvents) later) ∧
      0 < (caching.after [] clonedEvents).length ∧
      (∀ event ∈ [Event.call 1 (.addArgument { names := ["-b"] })], ¬ event.Calls 0) ∧
      ∃ result, caching.respond (caching.after (caching.after [] clonedEvents)
          [.call 1 (.addArgument { names := ["-b"] })]) [.call 0 (.parse ["-b", "1"] none)] =
        [some (.parsed result)] ∧ result = .error (.unparsedTokens ["-b", "1"]) := by
  have hlength : 0 < (caching.after [] clonedEvents).length := by decide +kernel
  have hother : ∀ event ∈ [Event.call 1 (.addArgument { names := ["-b"] })], ¬ event.Calls 0 :=
    List.forall_mem_singleton.mpr Nat.one_ne_zero
  obtain ⟨-, -, hidle, hclone⟩ := caching_never_stale clonedEvents
  refine ⟨⟨_, rfl, trivial, hidle _ _ rfl trivial⟩, hlength, hother, ?_⟩
  exact ⟨_, hclone 0 hlength _ hother [.parse ["-b", "1"] none], by decide +kernel⟩

end TokenGrammar
