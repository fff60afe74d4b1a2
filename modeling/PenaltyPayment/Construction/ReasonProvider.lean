/- `DefaultReasonProvider`: the reason text a ledger line gets in the transaction list. -/

import PenaltyPayment.Construction.PenaltyConfig

namespace PenaltyPayment.Private

open Config

/-- The fields of `models.AccountPenaltiesDataDao` that `GetReason` reads. -/
structure AccountPenaltiesDataDao where
  companyCode : String
  transactionType : String
  transactionSubType : String
  deriving DecidableEq, Repr

/-- The constants `GetReason` compares against; the two company codes of one `switch` differ. -/
structure TransactionCodes where
  invoiceTransactionType : String
  lateFilingPenaltyCompanyCode : String
  sanctionsCompanyCode : String
  companyCodes_ne : lateFilingPenaltyCompanyCode ≠ sanctionsCompanyCode

def lateFilingPenaltyReason : String := "Late filing of accounts"

def penaltyReason : String := "Penalty"

/-- This is `getSanctionsReason` over the list `getPenaltyTypesConfig()` returned. -/
def getSanctionsReason (transaction : AccountPenaltiesDataDao) :
    List FinancePenaltyTypeConfig → String
  | [] => penaltyReason
  | penaltyTypeConfig :: rest =>
      if penaltyTypeConfig.transactionSubtype = transaction.transactionSubType then
        penaltyTypeConfig.reason
      else getSanctionsReason transaction rest

/-- This is `DefaultReasonProvider.GetReason`. -/
def getReason (codes : TransactionCodes) (penaltyTypesConfig : List FinancePenaltyTypeConfig)
    (transaction : AccountPenaltiesDataDao) : String :=
  if transaction.transactionType = codes.invoiceTransactionType then
    if transaction.companyCode = codes.lateFilingPenaltyCompanyCode then lateFilingPenaltyReason
    else if transaction.companyCode = codes.sanctionsCompanyCode then
      getSanctionsReason transaction penaltyTypesConfig
    else penaltyReason
  else ""

/-- The reason of the first entry with the line's subtype, or `PenaltyReason`. -/
theorem getSanctionsReason_first_match (transaction : AccountPenaltiesDataDao)
    (penaltyTypesConfig : List FinancePenaltyTypeConfig) :
    (∃ earlier entry later, penaltyTypesConfig = earlier ++ entry :: later ∧
        entry.transactionSubtype = transaction.transactionSubType ∧
        (∀ skipped ∈ earlier, skipped.transactionSubtype ≠ transaction.transactionSubType) ∧
        getSanctionsReason transaction penaltyTypesConfig = entry.reason) ∨
      ((∀ entry ∈ penaltyTypesConfig,
          entry.transactionSubtype ≠ transaction.transactionSubType) ∧
        getSanctionsReason transaction penaltyTypesConfig = penaltyReason) := by
  induction penaltyTypesConfig with
  | nil => exact .inr ⟨by simp, rfl⟩
  | cons head rest inductionHypothesis =>
      by_cases sameSubtype : head.transactionSubtype = transaction.transactionSubType
      · exact .inl ⟨[], head, rest, rfl, sameSubtype, by simp,
          by simp [getSanctionsReason, sameSubtype]⟩
      · have skip : getSanctionsReason transaction (head :: rest) =
            getSanctionsReason transaction rest := by simp [getSanctionsReason, sameSubtype]
        rw [skip]
        rcases inductionHypothesis with ⟨earlier, entry, later, split, same, skipped, found⟩ |
          ⟨noEntry, fallback⟩
        · refine .inl ⟨head :: earlier, entry, later, by rw [split]; rfl, same, ?_, found⟩
          simpa [sameSubtype] using skipped
        · exact .inr ⟨by simpa [sameSubtype] using noEntry, fallback⟩

/-- The loop reads only the entries with the line's subtype. -/
theorem getSanctionsReason_filter (transaction : AccountPenaltiesDataDao)
    (penaltyTypesConfig : List FinancePenaltyTypeConfig) :
    getSanctionsReason transaction penaltyTypesConfig =
      getSanctionsReason transaction (penaltyTypesConfig.filter fun entry =>
        entry.transactionSubtype = transaction.transactionSubType) := by
  induction penaltyTypesConfig with
  | nil => rfl
  | cons head rest inductionHypothesis =>
      by_cases sameSubtype : head.transactionSubtype = transaction.transactionSubType
      · simp [getSanctionsReason, sameSubtype]
      · simp [getSanctionsReason, sameSubtype, inductionHypothesis]

end PenaltyPayment.Private
