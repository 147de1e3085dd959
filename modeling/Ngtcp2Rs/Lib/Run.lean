import Mathlib.Data.List.Basic

/-!
# Labelled runs

A machine moves from state to state under a list of labels. `run` is the total case, `exec` the
case of a step that can fail; `LegalRun` and `LegalExec` say that every label of the list met a
condition on the state it was taken in. `run_invariant` and `exec_invariant` are the two induction
rules: an invariant kept by every legal step holds at the end of every legal run, and a step that
cannot fail from the invariant makes a run that cannot fail; `exec_keeps` is for the runs that
happen to succeed, and `exec_isSome_iff` says which these are. `run_history` and `exec_history` keep
a relation to what was collected on the way, `run_simulates` one to a run of another machine.
`legalRun_iff` and `legalExec_iff` compare two conditions on the steps of a run.
-/

namespace Lib

variable {S L : Type}

/-- The state after the labels `ls`. -/
def run (step : S → L → S) (s : S) (ls : List L) : S := ls.foldl step s

@[simp] theorem run_nil (step : S → L → S) (s : S) : run step s [] = s := rfl

theorem run_append (step : S → L → S) (s : S) (ls ls' : List L) :
    run step s (ls ++ ls') = run step (run step s ls) ls' := List.foldl_append

/-- A place in a history that ends in `c`: the end, or one before it. -/
theorem split_concat {init pre post : List L} {c d : L} (h : init ++ [c] = pre ++ d :: post) :
    (pre = init ∧ d = c ∧ post = []) ∨ ∃ post', post = post' ++ [c] ∧ init = pre ++ d :: post' := by
  obtain rfl | ⟨rest, e, rfl⟩ := post.eq_nil_or_concat'
  · obtain ⟨rfl, hlast⟩ := List.append_inj' h rfl
    cases hlast
    exact .inl ⟨rfl, rfl, rfl⟩
  · rw [← List.cons_append, ← List.append_assoc] at h
    obtain ⟨rfl, hlast⟩ := List.append_inj' h rfl
    cases hlast
    exact .inr ⟨rest, rfl, rfl⟩

/-- Every label of `ls` meets `legal` in the state it is taken in. -/
def LegalRun (step : S → L → S) (legal : S → L → Prop) : S → List L → Prop
  | _, [] => True
  | s, l :: ls => legal s l ∧ LegalRun step legal (step s l) ls

theorem legalRun_true {step : S → L → S} : ∀ (ls : List L) (s : S),
    LegalRun step (fun _ _ => True) s ls
  | [], _ => trivial
  | _ :: ls, _ => ⟨trivial, legalRun_true ls _⟩

instance LegalRun.decidable {step : S → L → S} {legal : S → L → Prop}
    [∀ s l, Decidable (legal s l)] : ∀ (s : S) (ls : List L), Decidable (LegalRun step legal s ls)
  | _, [] => isTrue trivial
  | s, l :: ls =>
    have : Decidable (LegalRun step legal (step s l) ls) := LegalRun.decidable (step s l) ls
    inferInstanceAs (Decidable (legal s l ∧ LegalRun step legal (step s l) ls))

/-- Two conditions that are the same for every step are the same for every run. -/
theorem legalRun_iff {step : S → L → S} {P Q : S → L → Prop} (h : ∀ s l, P s l ↔ Q s l) :
    ∀ (ls : List L) (s : S), LegalRun step P s ls ↔ LegalRun step Q s ls
  | [], _ => Iff.rfl
  | l :: ls, s => and_congr (h s l) (legalRun_iff h ls (step s l))

/-- **Invariant rule.** What every legal step keeps holds at the end of every legal run. -/
theorem run_invariant {step : S → L → S} {legal : S → L → Prop} {I : S → Prop}
    (hstep : ∀ s l, I s → legal s l → I (step s l)) :
    ∀ (ls : List L) (s : S), I s → LegalRun step legal s ls → I (run step s ls)
  | [], _, hs, _ => hs
  | l :: ls, s, hs, hl => run_invariant hstep ls (step s l) (hstep s l hs hl.1) hl.2

/-- **Invariant rule for any labels.** What every step keeps holds at the end of every run. -/
theorem run_preserves {step : S → L → S} {I : S → Prop} (hstep : ∀ s l, I s → I (step s l))
    (ls : List L) (s : S) (hs : I s) : I (run step s ls) :=
  run_invariant (fun s l h _ => hstep s l h) ls s hs (legalRun_true ls s)

/-- The labels of another machine that a run comes to, if each label in its state comes to some. -/
def relabel {L' : Type} (step : S → L → S) (f : S → L → List L') : S → List L → List L'
  | _, [] => []
  | s, l :: ls => f s l ++ relabel step f (step s l) ls

/-- **History rule.** What every step keeps of a state and of what was collected so far holds at the
end of every run, of the state and of all that was collected. -/
theorem run_history {L' : Type} {step : S → L → S} {f : S → L → List L'} {R : S → List L' → Prop}
    (hstep : ∀ s past l, R s past → R (step s l) (past ++ f s l)) :
    ∀ (ls : List L) (s : S) (past : List L'), R s past →
      R (run step s ls) (past ++ relabel step f s ls)
  | [], _, past, h => by
    rw [relabel, List.append_nil]
    exact h
  | l :: ls, s, past, h => by
    rw [relabel, ← List.append_assoc]
    exact run_history hstep ls (step s l) _ (hstep s past l h)

/-- **Simulation rule.** If every step is simulated by the labels that it comes to, then so is every
run. -/
theorem run_simulates {S' L' : Type} {step : S → L → S} {step' : S' → L' → S'}
    {f : S → L → List L'} {R : S → S' → Prop}
    (hstep : ∀ s s' l, R s s' → R (step s l) (run step' s' (f s l))) :
    ∀ (ls : List L) (s : S) (s' : S'), R s s' →
      R (run step s ls) (run step' s' (relabel step f s ls))
  | [], _, _, h => h
  | l :: ls, s, s', h => by
    rw [relabel, run_append]
    exact run_simulates hstep ls (step s l) _ (hstep s s' l h)

/-- The state after the labels `ls`, `none` as soon as a step fails. -/
def exec (step : S → L → Option S) (s : S) (ls : List L) : Option S := ls.foldlM step s

@[simp] theorem exec_cons (step : S → L → Option S) (s : S) (l : L) (ls : List L) :
    exec step s (l :: ls) = (step s l).bind fun s' => exec step s' ls := rfl

/-- Every label of `ls` meets `legal` in the state it is taken in, as far as the steps succeed. -/
def LegalExec (step : S → L → Option S) (legal : S → L → Prop) : S → List L → Prop
  | _, [] => True
  | s, l :: ls => legal s l ∧ ∀ s', step s l = some s' → LegalExec step legal s' ls

theorem LegalExec.and {step : S → L → Option S} {legal : S → L → Prop} {Q : L → Prop} :
    ∀ {ls : List L} {s : S}, LegalExec step legal s ls → (∀ l ∈ ls, Q l) →
      LegalExec step (fun s l => legal s l ∧ Q l) s ls
  | [], _, _, _ => trivial
  | _ :: _, _, h, hq => ⟨⟨h.1, hq _ List.mem_cons_self⟩, fun s' hs' =>
      (h.2 s' hs').and fun l hl => hq l (List.mem_cons_of_mem _ hl)⟩

instance LegalExec.decidable {step : S → L → Option S} {legal : S → L → Prop}
    [∀ s l, Decidable (legal s l)] : ∀ (s : S) (ls : List L), Decidable (LegalExec step legal s ls)
  | _, [] => isTrue trivial
  | s, l :: ls =>
    match h : step s l with
    | none => decidable_of_iff (legal s l) (by simp [LegalExec, h])
    | some s' =>
      have : Decidable (LegalExec step legal s' ls) := LegalExec.decidable s' ls
      decidable_of_iff (legal s l ∧ LegalExec step legal s' ls) (by simp [LegalExec, h])

/-- **Invariant rule for steps that can fail.** A legal step from the invariant succeeds and keeps
it; then a legal run succeeds and ends in the invariant. -/
theorem exec_invariant {step : S → L → Option S} {legal : S → L → Prop} {I : S → Prop}
    (hstep : ∀ s l, I s → legal s l → ∃ s', step s l = some s' ∧ I s') :
    ∀ (ls : List L) (s : S), I s → LegalExec step legal s ls →
      ∃ s', exec step s ls = some s' ∧ I s'
  | [], s, hs, _ => ⟨s, rfl, hs⟩
  | l :: ls, s, hs, hl => by
    obtain ⟨s₁, h₁, hi₁⟩ := hstep s l hs hl.1
    obtain ⟨s₂, h₂, hi₂⟩ := exec_invariant hstep ls s₁ hi₁ (hl.2 s₁ h₁)
    exact ⟨s₂, by rw [exec_cons, h₁]; exact h₂, hi₂⟩

/-- **History rule for runs that succeed.** A relation to the labels so far that every step that
succeeds extends holds at the end of every legal run that succeeds. -/
theorem exec_history {step : S → L → Option S} {legal : S → L → Prop} {R : S → List L → Prop}
    (hstep : ∀ s past l s', R s past → legal s l → step s l = some s' → R s' (past ++ [l])) :
    ∀ (ls : List L) {s s' : S} {past : List L}, R s past → LegalExec step legal s ls →
      exec step s ls = some s' → R s' (past ++ ls)
  | [], _, _, past, hs, _, h => by
    cases h
    rwa [List.append_nil]
  | l :: ls, s, s', past, hs, hl, h => by
    obtain ⟨s₁, h₁, h⟩ := Option.bind_eq_some_iff.mp h
    have hrest := exec_history hstep ls (hstep s past l s₁ hs hl.1 h₁) (hl.2 s₁ h₁) h
    rwa [List.append_assoc] at hrest

/-- **Invariant rule for runs that succeed.** What every step that succeeds keeps holds at the end of
every legal run that succeeds. -/
theorem exec_keeps {step : S → L → Option S} {legal : S → L → Prop} {I : S → Prop}
    (hstep : ∀ s l s', I s → legal s l → step s l = some s' → I s')
    (ls : List L) (s s' : S) (hs : I s) (hl : LegalExec step legal s ls)
    (h : exec step s ls = some s') : I s' :=
  @exec_history S L step legal (fun s _ => I s) (fun s _ l s' => hstep s l s') ls s s' [] hs hl h

theorem legalExec_true {step : S → L → Option S} : ∀ (ls : List L) (s : S),
    LegalExec step (fun _ _ => True) s ls
  | [], _ => trivial
  | _ :: ls, _ => ⟨trivial, fun s' _ => legalExec_true ls s'⟩

/-- **Which runs succeed.** If the steps that succeed from the invariant are the legal ones, and they
keep it, then the runs that succeed are the legal ones. -/
theorem exec_isSome_iff {step : S → L → Option S} {legal : S → L → Prop} {I : S → Prop}
    (hiff : ∀ s l, I s → ((step s l).isSome ↔ legal s l))
    (hkept : ∀ s l s', I s → step s l = some s' → I s') :
    ∀ (ls : List L) (s : S), I s → ((exec step s ls).isSome ↔ LegalExec step legal s ls)
  | [], _, _ => iff_of_true rfl trivial
  | l :: ls, s, hs => by
    rw [exec_cons, LegalExec, ← hiff s l hs]
    cases hstep : step s l with
    | none => simp
    | some s' => simpa using exec_isSome_iff hiff hkept ls s' (hkept s l s' hs hstep)

/-- **Two conditions on the steps of a run.** If they are the same in every state of the invariant,
and the invariant is kept where they hold, then a legal run meets the one exactly if it meets the
other. -/
theorem legalExec_iff {step : S → L → Option S} {legal P Q : S → L → Prop} {I : S → Prop}
    (hiff : ∀ s l, I s → legal s l → (P s l ↔ Q s l))
    (hkept : ∀ s l s', I s → legal s l → Q s l → step s l = some s' → I s') :
    ∀ (ls : List L) (s : S), I s → LegalExec step legal s ls →
      (LegalExec step P s ls ↔ LegalExec step Q s ls)
  | [], _, _, _ => Iff.rfl
  | l :: ls, s, hs, hl => by
    have hhead := hiff s l hs hl.1
    have htail (hq : Q s l) (s' : S) (hs' : step s l = some s') :=
      legalExec_iff hiff hkept ls s' (hkept s l s' hs hl.1 hq hs') (hl.2 s' hs')
    constructor
    · rintro ⟨hp, hrest⟩
      have hq := hhead.mp hp
      exact ⟨hq, fun s' hs' => (htail hq s' hs').mp (hrest s' hs')⟩
    · rintro ⟨hq, hrest⟩
      exact ⟨hhead.mpr hq, fun s' hs' => (htail hq s' hs').mpr (hrest s' hs')⟩

end Lib
