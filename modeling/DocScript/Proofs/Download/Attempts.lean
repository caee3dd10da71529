import DocScript.Download.Retry
import DocScript.Proofs.Number.Representable

/-! # The attempts of a download

A download asks until something comes back that is no failure of the transport, or until it has used
up its retries. Between two requests it pauses once, and each pause is twice as long as the one
before.
-/

namespace DocScript.Download

variable {ε : Type}

/-- Whether an answer is a failure of the transport, after which a request may be made again. -/
def Answer.isTransport : Answer ε → Bool
  | .transport _ => true
  | _ => false

/-- How a download ends that makes no request after an answer. -/
def Answer.outcome : Answer ε → Outcome ε
  | .response reply => .response reply
  | .transport error => .transport error
  | .other fault => .fault fault

namespace Settings

/-- The one request that a download makes, again and again. -/
def request (settings : Settings) (url : String) : Action := .requested url settings.headers

/-- The pause after an attempt: the first one, doubled as often as there were attempts before. -/
def pauseAfter (settings : Settings) (attempt : Nat) : Binary64 :=
  settings.backoff.mul (.ofInt (2 ^ attempt))

/-- An attempt that is not the last one, and the pause after it. -/
def retried (settings : Settings) (url : String) (attempt : Nat) : List Action :=
  [settings.request url, .slept (settings.pauseAfter attempt)]

end Settings

/-! ## Pauses -/

theorem representable_two_pow {j : Nat} (h : j < 1024) : Representable (2 ^ j) := by
  rcases Nat.le_total j 971 with hj | hj
  · exact ⟨1, j, by decide, by omega, by omega, by simp⟩
  · -- The greatest exponent is 971, and the significand takes what is over it.
    refine ⟨2 ^ (j - 971), 971, ?_, by decide, by decide, ?_⟩
    · have hlt : 2 ^ (j - 971) < 2 ^ 53 := Nat.pow_lt_pow_right (by decide) (by omega)
      rw [Int.natAbs_pow]
      exact hlt
    · rw [Int.cast_pow, Int.cast_ofNat, show (971 : Int) = (971 : Nat) from rfl, zpow_natCast,
        ← pow_add, Nat.sub_add_cancel hj]

theorem exists_ofInt_two_pow {j : Nat} (h : j < 1024) :
    ∃ nonzero representable, Binary64.ofInt (2 ^ j) = .finite (2 ^ j) nonzero representable := by
  have hc : ((2 ^ j : Int) : Rat) = 2 ^ j := by push_cast; rfl
  have hn : (2 : Rat) ^ j ≠ 0 := by positivity
  refine ⟨hn, representable_two_pow h, ?_⟩
  rw [Binary64.ofInt, hc]
  exact Binary64.round_of_representable _ _

theorem toRat_ofInt_two_pow {j : Nat} (h : j < 1024) : (Binary64.ofInt (2 ^ j)).toRat = 2 ^ j := by
  obtain ⟨hn, hr, he⟩ := exists_ofInt_two_pow h
  rw [he]
  rfl

theorem pause_eq (settings : Settings) {attempt : Nat} (h : attempt < 1024) :
    pause settings attempt = .ok (settings.pauseAfter attempt) := by
  have hs : ((1 <<< attempt : Nat) : Int) = 2 ^ attempt := by
    rw [Nat.one_shiftLeft]
    push_cast
    rfl
  have hf : (Number.int (1 <<< attempt : Nat)).toBinary64? = .ok (.ofInt (2 ^ attempt)) := by
    obtain ⟨hn, hr, he⟩ := exists_ofInt_two_pow h
    rw [Number.toBinary64?, hs, he]
    rfl
  rw [pause, hf]
  rfl

/-! ## Attempts -/

variable {settings : Settings} {url : String} {client : Nat → Answer ε} {attempt left : Nat}

/-- An attempt is the last one if none is left after it, or if the transport has not failed. -/
theorem attempts_of_last (h : left = 0 ∨ (client attempt).isTransport = false) :
    attempts settings url client attempt (left + 1) =
      ([settings.request url], (client attempt).outcome) := by
  rw [attempts]
  cases ha : client attempt with
  | response response => rfl
  | other fault => rfl
  | transport error =>
    rw [ha] at h
    rcases h with rfl | h
    · rfl
    · cases h

/-- After any other attempt there is one pause, and the attempts go on. -/
theorem attempts_of_retried (h : (client attempt).isTransport = true) (hb : attempt < 1024) :
    attempts settings url client attempt (left + 2) =
      (settings.retried url attempt ++ (attempts settings url client (attempt + 1) (left + 1)).1,
        (attempts settings url client (attempt + 1) (left + 1)).2) := by
  rw [attempts]
  cases ha : client attempt with
  | response response => rw [ha] at h; cases h
  | other fault => rw [ha] at h; cases h
  | transport error =>
    dsimp only
    rw [if_neg (Nat.succ_ne_zero left), pause_eq settings hb]
    rfl

/-- The attempts are one after each failure of the transport, and the last one. -/
theorem attempts_eq {count : Nat} (hb : attempt + count ≤ 1024)
    (hfail : ∀ j < count, (client (attempt + j)).isTransport = true)
    (hlast : left = 0 ∨ (client (attempt + count)).isTransport = false) :
    attempts settings url client attempt (count + left + 1) =
      ((List.range' attempt count).flatMap (settings.retried url) ++ [settings.request url],
        (client (attempt + count)).outcome) := by
  induction count generalizing attempt with
  | zero =>
    rw [Nat.zero_add]
    exact attempts_of_last hlast
  | succ count ih =>
    have hfirst : (client attempt).isTransport = true := hfail 0 (Nat.succ_pos count)
    have hnext : attempt + (count + 1) = attempt + 1 + count := by omega
    rw [hnext] at hb hlast ⊢
    have hrest := ih hb (fun j hj => by
      rw [Nat.add_right_comm, Nat.add_assoc]
      exact hfail (j + 1) (Nat.succ_lt_succ hj)) hlast
    rw [show count + 1 + left + 1 = count + left + 2 by omega,
      attempts_of_retried hfirst (by omega), hrest, List.range'_succ, List.flatMap_cons,
      List.append_assoc]

/-- A download whose client answers some requests with failures of the transport, and then with
something else unless it has no retries left, makes a request for each of these answers and one
more, as far as it has retries. It pauses once between two of them, and after the last one it ends
with what has come back for it. The client is opened before and closed after all that. -/
theorem run_retries_exactly {config : Config} {environment : Environment} (url : String)
    {client : Nat → Answer ε} {r k : Nat} (hs : Settings.of config environment = .ok settings)
    (hr : settings.retries = r) (hb : r ≤ 1024) (hfail : ∀ j < k, (client j).isTransport = true)
    (hreply : k ≤ r → (client k).isTransport = false) :
    run config environment url client =
        (.opened settings.timeout ::
          ((List.range (min k r)).flatMap fun j =>
            [.requested url settings.headers, .slept (settings.backoff.mul (.ofInt (2 ^ j)))]) ++
          [.requested url settings.headers, .closed],
        (client (min k r)).outcome) ∧
      ∀ j < min k r, (Binary64.ofInt (2 ^ j)).toRat = 2 ^ j := by
  have hleft : r - min k r = 0 ∨ (client (0 + min k r)).isTransport = false := by
    rcases Nat.lt_or_ge k r with hk | hk
    · right
      rw [Nat.min_eq_left hk.le, Nat.zero_add]
      exact hreply hk.le
    · left
      rw [Nat.min_eq_right hk, Nat.sub_self]
  have hcount : (settings.retries + 1).toNat = min k r + (r - min k r) + 1 := by
    have := Nat.min_le_right k r
    omega
  have hall : ∀ j < min k r, (client (0 + j)).isTransport = true := by
    intro j hj
    rw [Nat.zero_add]
    exact hfail j (hj.trans_le (Nat.min_le_left k r))
  have hbound : 0 + min k r ≤ 1024 := by
    rw [Nat.zero_add]
    exact (Nat.min_le_right k r).trans hb
  have he : attempts settings url client 0 _ = _ := attempts_eq hbound hall hleft
  constructor
  · simp only [run, hs, perform, hcount, he, Nat.zero_add]
    rw [← List.range_eq_range', List.cons_append, List.cons_append, List.append_assoc]
    rfl
  · intro j hj
    exact toRat_ofInt_two_pow (by omega)

section Example

def patientConfig : Config where
  timeout := some (.number (.int 5))
  retries := some (.string " 2 ")
  backoff := some (.bool true)
  headers := [("Accept", "text/markdown")]

/-- A client that fails twice and then refuses. -/
def refusing (attempt : Nat) : Answer String :=
  if attempt < 2 then .transport "connection refused" else .response ⟨503, "busy"⟩

def patientSettings : Settings := ⟨.ofInt 5, 2, .ofInt 1, [("Accept", "text/markdown")]⟩

/-- The third request is the last one, and what it brings is returned, whatever the status. -/
theorem run_retries_refusing :
    run patientConfig [] "http://h/a.md" refusing =
        ([.opened (.ofInt 5), .requested "http://h/a.md" [("Accept", "text/markdown")],
          .slept ((Binary64.ofInt 1).mul (.ofInt 1)),
          .requested "http://h/a.md" [("Accept", "text/markdown")],
          .slept ((Binary64.ofInt 1).mul (.ofInt 2)),
          .requested "http://h/a.md" [("Accept", "text/markdown")], .closed],
        .response ⟨503, "busy"⟩) := by
  have ht : toFloat (.number (.int 5)) = .ok (.ofInt 5) := by
    rw [toFloat, Number.toBinary64?, Binary64.isInfinite_ofInt (by decide)]
    rfl
  have hs : Settings.of patientConfig [] = .ok patientSettings := by
    simp only [Settings.of, patientConfig, Option.getD_some, ht]
    rfl
  have hfail : ∀ j < 2, (refusing j).isTransport = true := by decide
  exact (run_retries_exactly "http://h/a.md" hs rfl (by decide) hfail fun _ => rfl).1

end Example

end DocScript.Download
