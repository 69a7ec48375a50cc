import BundleHost.Text.Basic
import BundleHost.Text.CaseTable
import BundleHost.Text.WordEnd

/-! Small and capital forms of whole texts. Names of settings, levels, profiles and file
extensions are compared after one of these. A letter outside ASCII can have an ASCII form, such
as the dotless i, whose capital is the plain one. Only the sigma is not taken on its own: its
small form says whether a word ends with it. -/

namespace BundleHost.Text

/-- Whether a run lists the letter at a code point. -/
def CaseRun.lists (r : CaseRun) (n : Nat) : Bool :=
  r.first ≤ n && n ≤ r.last && (n - r.first) % r.step == 0

/-- The form of a letter outside ASCII, by the runs and the long forms. -/
def formOutsideAscii (runs : List CaseRun) (long : List (Nat × List Nat)) (c : Char) : Text :=
  match long.lookup c.toNat with
  | some form => form.map Char.ofNat
  | none =>
    match runs.find? fun r => r.lists c.toNat with
    | some r => [Char.ofNat (c.toNat + r.shift).toNat]
    | none => [c]

def lowerChar (c : Char) : Text :=
  if c.toNat < 128 then [c.toLower] else formOutsideAscii smallRuns longSmallForms c

def upperChar (c : Char) : Text :=
  if c.toNat < 128 then [c.toUpper] else formOutsideAscii capitalRuns longCapitalForms c

/-! ### Ends of words -/

def isCased (c : Char) : Bool := casedRanges.contains c.toNat

def isCaseIgnorable (c : Char) : Bool := caseIgnorableRanges.contains c.toNat

/-- Whether a text goes on with a letter, once what says nothing about that is passed over. -/
def startsWithLetter (t : Text) : Bool := (t.dropWhile isCaseIgnorable).head?.any isCased

/-- Whether a letter is the last thing before the next character. -/
def afterLetter (before : Bool) (c : Char) : Bool := if isCaseIgnorable c then before else isCased c

/-- The small form of a sigma, by what is before it and what comes after it. -/
def smallSigma (before : Bool) (rest : Text) : Char :=
  if before && !startsWithLetter rest then 'ς' else 'σ'

/-- The small form of a text, before which a letter stands or not. -/
def lowerAfter (before : Bool) : Text → Text
  | [] => []
  | c :: r =>
    (if c = 'Σ' then [smallSigma before r] else lowerChar c) ++ lowerAfter (afterLetter before c) r

/-! ### Whole texts -/

def lower (t : Text) : Text := lowerAfter false t

def upper (t : Text) : Text := t.flatMap upperChar

/-- The text with the letters A to Z made small and nothing else changed. -/
def lowerAscii (t : Text) : Text := t.map Char.toLower

/-- Within ASCII no letter depends on the others. -/
theorem lowerAfter_eq_lowerAscii {t : Text} (h : ∀ c ∈ t, c.toNat < 128) (before : Bool) :
    lowerAfter before t = lowerAscii t := by
  induction t generalizing before with
  | nil => rfl
  | cons c r ih =>
    simp only [List.mem_cons, forall_eq_or_imp] at h
    have hs : c ≠ 'Σ' := fun e => absurd h.1 (by subst e; decide)
    rw [lowerAfter, ih h.2]
    simp [hs, lowerChar, h.1, lowerAscii]

theorem lower_eq_lowerAscii {t : Text} (h : ∀ c ∈ t, c.toNat < 128) : lower t = lowerAscii t :=
  lowerAfter_eq_lowerAscii h false

end BundleHost.Text
