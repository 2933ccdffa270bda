import TokenGrammar.Proofs.Accumulation
import TokenGrammar.Proofs.Limits

/-!
# Tallies

How many matches of a rule a parse keeps, and at which tokens. A rule that counts its matches in a
limit is kept as often as the limit says at most, if no other rule counts in it: what is taken back
is not counted, and what is kept is counted once. Each of these matches is at a token of its own.

* `Handler.Discreet`: handlers that leave the tokens, the kept values and an attribute alone;
* `Rule.Library.count_eq`: a tree leaves the counts of the limits that it does not have;
* `TokenParser.Sound.length_kept_le`: the number of kept matches, and
  `TokenParser.Sound.sublist_kept`: the tokens at which they start, both by induction on the rounds.
-/

namespace TokenGrammar

/-! ## Handlers that leave all else alone -/

/-- The handler works through the operations of a state, the same whatever savepoints are open. It
leaves the tokens and the kept values alone, and the attribute too unless it is the destination. -/
structure Handler.Discreet (name : String) (handler : Handler) : Prop where
  recorded : handler.Local
  orderly : handler.Orderly
  keeps : handler.Keeps name
  tokens : handler.Leaves Content.tokens
  scratch : handler.Leaves Content.scratch

namespace Handler

variable {handler : Handler} {name : String}

theorem discreet_of_builtIn (h : handler.BuiltIn) (name : String) : handler.Discreet name where
  recorded := local_of_builtIn h
  orderly := orderly_of_builtIn h
  keeps := keeps_of_builtIn h name
  tokens := leaves_of_builtIn h fun _ _ => rfl
  scratch := leaves_of_builtIn h fun _ _ => rfl

theorem Discreet.count (h : handler.Discreet name) (id : Nat) :
    handler.Leaves (·.scratch.count id) :=
  fun st dest value => congrArg (·.count id) (h.scratch st dest value)

end Handler

/-! ## Counts of limits -/

/-- A limit that matches counts one more match. -/
@[simp]
theorem Scratch.count_set_self (s : Scratch) (id : Nat) (n : Int64) :
    (s.set (.rule id) Rule.counterKey (.int n)).count id = n := by
  rw [count, get?_set, if_pos ⟨rfl, rfl⟩]
  rfl

namespace Rule

/-- The number of the limit that a rule is by itself. -/
def counter? : Rule → Option Nat
  | .limit id _ => some id
  | _ => none

/-- A tree without a limit of the number leaves its count. -/
theorem Library.count_eq {rule : Rule} {id : Nat}
    (h : rule.Library fun handler => handler.Orderly ∧ handler.Leaves (·.scratch.count id))
    (hnone : rule.Each (id ∉ ·.counter?)) :
    rule.run.Ensures fun c d => d.scratch.count id = c.scratch.count id := by
  refine Each.ensures (R := fun c d => d.scratch.count id = c.scratch.count id)
    (fun _ => rfl) (fun _ _ _ h h' => h'.trans h) (h.orderlyRoot fun _ => And.left)
    ((h.and hnone).mono fun r hr => ?_)
  obtain ⟨hlibrary, hcounter⟩ := hr
  have hreplace (f : String → Option String) :
      (replaceNext f).Ensures fun c d => d.scratch.count id = c.scratch.count id := by
    refine (ensures_replaceNext f).mono ?_
    rintro c _ ⟨token, rfl⟩
    rfl
  cases r with
  | skip n =>
    intro st st' hrun
    obtain ⟨_, _, -, heq⟩ := ensures_skip n st st' hrun
    rw [heq]
  | replace f => exact hreplace f
  | removePrefix prefixes fold => exact hreplace _
  | limit own most =>
    have hne : own ≠ id := fun heq => hcounter (congrArg some heq)
    intro st st' hrun
    rw [ensures_limitStep own most st st' hrun]
    exact st.scratch.count_set_of_ne (fun heq => hne (Owner.rule.inj heq.1)) _
  | collect collector handler =>
    exact (ensures_collectStep_of_leaves hlibrary.2).mono fun _ _ => And.right
  | capture own dests rule format handler =>
    intro step _ hstep
    exact hstep.captureStep_of_leaves (T := fun c n => n = c.scratch.count id) hlibrary.2
  | custom step => exact hlibrary.elim
  | _ => trivial

end Rule

/-! ## Kept matches -/

namespace TokenParser

variable {p : TokenParser} {mode : Mode} {rule : Rule} {i rounds : Nat} {st next : State}

/-- Giving up on tokens writes attributes only. -/
theorem scratch_of_skip {taken : List String} (h : skip mode st = .ok taken next) :
    next.scratch = st.scratch := by
  obtain ⟨behind, rfl, hbehind⟩ := skip_eq_ok h
  have hsame : behind.scratch = st.scratch := by
    obtain ⟨-, rfl⟩ | ⟨buffer, -, rfl⟩ := hbehind <;> rfl
  rw [(record_unknown ..).2.1, hsame]

/-- The match of a rule is kept as often as its limit says at most, if the limit is below its bound
wherever the rule matches, each match of the rule counts itself, and no other rule counts there. -/
theorem Sound.length_kept_le (h : p.Sound) (hrule : p.rules[i]? = some rule) {id most : Nat}
    (hmost : most < 2 ^ 64)
    (hown : rule.run.Ensures fun c d => ¬ Int64.ofNat most ≤ c.scratch.count id ∧
      d.scratch.count id = c.scratch.count id + 1)
    (hothers : ∀ j other, j ≠ i → p.rules[j]? = some other →
      other.run.Ensures fun c d => d.scratch.count id = c.scratch.count id)
    (mode : Mode) (rounds : Nat) (hst : st.savepoints = []) (hzero : st.scratch.count id = 0) :
    (p.kept mode i rounds st).length ≤ most := by
  -- so many more matches are kept as the limit still admits
  suffices hleft : ∀ n < 2 ^ 63, n ≤ most → st.scratch.count id = .ofNat n →
      (p.kept mode i rounds st).length + n ≤ most from
    hleft 0 (by decide) (Nat.zero_le most) hzero
  refine h.kept_induction (P := fun st kept => ∀ n < 2 ^ 63, n ≤ most →
    st.scratch.count id = .ofNat n → kept.length + n ≤ most) hrule
    (fun _ n _ hn _ => by simpa using hn) ?_ ?_ ?_ rounds hst
  · intro st next kept _ _ halone _ ih n hn _ hcount
    obtain ⟨hbelow, hnext⟩ := hown st next (run_of_alone halone)
    have hlt : ¬ (2 ^ 63 ≤ most ∨ most ≤ n) := by
      rw [← Int64.ofNat_le_ofNat_iff hn hmost, ← hcount]
      exact hbelow
    have hone : next.scratch.count id = .ofNat (n + 1) := by
      rw [Int64.ofNat_add, ← hcount]
      exact hnext
    have := ih (n + 1) (by omega) (by omega) hone
    rw [List.length_cons]
    omega
  · intro st next kept j other hj hother _ halone _ ih n hn hle hcount
    have hsame := hothers j other hj hother st next (run_of_alone halone)
    exact ih n hn hle (hsame.trans hcount)
  · intro st next kept taken hskip ih n hn hle hcount
    exact ih n hn hle ((congrArg (·.count id) (scratch_of_skip hskip)).trans hcount)

/-- What is left behind a match that consumes a token is left of what was left behind the first
token before. -/
theorem sublist_remaining (h : st.tokens.Respelled next.tokens)
    (hsize : next.tokens.size < st.tokens.size) :
    next.tokens.remaining.Sublist st.tokens.remaining.tail := by
  have hmove := h.cursor_lt hsize
  rw [h.remaining_eq hmove, ← List.drop_one]
  exact List.drop_sublist_drop_left _ (by omega)

/-- The kept matches of a rule start at tokens of the input, in their order and spelling. -/
theorem Sound.sublist_kept (h : p.Sound) (hrule : p.rules[i]? = some rule)
    (hrespelled : ∀ r ∈ p.rules, r.run.Ensures fun c d => c.tokens.Respelled d.tokens) (mode : Mode)
    (rounds : Nat) (hst : st.savepoints = []) :
    ((p.kept mode i rounds st).filterMap (·.tokens.remaining.head?)).Sublist
      st.tokens.remaining := by
  have hbehind {j : Nat} {r : Rule} {st next : State} (hr : p.rules[j]? = some r)
      (halone : r.alone st = some next) (hsize : next.tokens.size < st.tokens.size) :
      next.tokens.remaining.Sublist st.tokens.remaining.tail :=
    sublist_remaining (hrespelled r (List.mem_of_getElem? hr) st next (run_of_alone halone)) hsize
  refine h.kept_induction (P := fun st kept =>
    (kept.filterMap (·.tokens.remaining.head?)).Sublist st.tokens.remaining) hrule
    (fun st => List.nil_sublist _) ?_ ?_ ?_ rounds hst
  · intro st next kept _ left halone hsize ih
    obtain ⟨token, rest, hremaining⟩ := exists_next left
    have hrest := ih.trans (hbehind hrule halone hsize)
    rw [hremaining] at hrest
    rw [List.filterMap_cons, hremaining]
    exact hrest.cons_cons token
  · intro st next kept j other _ hother _ halone hsize ih
    exact (ih.trans (hbehind hother halone hsize)).trans (List.tail_sublist _)
  · intro st next kept taken hskip ih
    rw [remaining_of_skip hskip]
    exact ih.trans (List.sublist_append_right taken _)

end TokenParser

end TokenGrammar
