/-
The order of texts by code point.

Texts are compared at the first place where they differ; the end of a text
comes before every character. The order is total and transitive, and only
equal texts are at most one another.
-/
import QuartoLint.Text.Blank

namespace QuartoLint.Text

/-- Whether a text comes before another or is equal to it. -/
def atMost : Text → Text → Bool
  | [], _ => true
  | _ :: _, [] => false
  | c :: rest, d :: others =>
    if c = d then atMost rest others else decide (c.toNat < d.toNat)

/-- Of two texts one is at most the other. -/
theorem atMost_total (s t : Text) : (atMost s t || atMost t s) = true := by
  fun_induction atMost s t with
  | case1 t => rfl
  | case2 c rest => simp [atMost]
  | case3 rest d others ih => simpa [atMost] using ih
  | case4 c rest d others hne =>
    have hcodes : c.toNat ≠ d.toNat := fun hcode => hne (Char.toNat_inj.1 hcode)
    simp only [atMost, Ne.symm hne, if_false, Bool.or_eq_true,
      decide_eq_true_eq]
    omega

theorem atMost_trans {s t u : Text} (hst : atMost s t = true)
    (htu : atMost t u = true) : atMost s u = true := by
  induction s generalizing t u with
  | nil => rfl
  | cons c rest ih =>
    cases t with
    | nil => cases hst
    | cons d others =>
      cases u with
      | nil => cases htu
      | cons e more =>
        simp only [atMost] at hst htu ⊢
        -- the first difference decides, and it may come from either step
        by_cases hcd : c = d
        · subst hcd
          by_cases hce : c = e
          · simp only [hce, if_true] at hst htu ⊢
            exact ih hst htu
          · simpa [hce] using htu
        · have hlt : c.toNat < d.toNat := by simpa [hcd] using hst
          by_cases hde : d = e
          · subst hde
            simpa [hcd] using hlt
          · have hlt' : d.toNat < e.toNat := by simpa [hde] using htu
            have hne : c ≠ e := by
              rintro rfl
              omega
            simp only [hne, if_false, decide_eq_true_eq]
            omega

/-- Texts that are at most one another are equal. -/
theorem eq_of_atMost {s t : Text} (hst : atMost s t = true)
    (hts : atMost t s = true) : s = t := by
  induction s generalizing t with
  | nil =>
    cases t with
    | nil => rfl
    | cons d others => cases hts
  | cons c rest ih =>
    cases t with
    | nil => cases hst
    | cons d others =>
      simp only [atMost] at hst hts
      -- a difference here would have to go both ways
      by_cases hcd : c = d
      · subst hcd
        simp only [if_true] at hst hts
        rw [ih hst hts]
      · simp only [hcd, Ne.symm hcd, if_false, decide_eq_true_eq] at hst hts
        omega

end QuartoLint.Text
