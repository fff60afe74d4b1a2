/- The reason `DefaultReasonProvider.GetReason` gives every ledger line. -/

import PenaltyPayment.Construction.ReasonProvider

namespace PenaltyPayment.Private

open Config

variable (codes : TransactionCodes) (penaltyTypesConfig : List FinancePenaltyTypeConfig)
  (transaction : AccountPenaltiesDataDao)

/-- A line that is not an invoice gets no reason. -/
theorem getReason_of_not_invoice
    (other : transaction.transactionType ≠ codes.invoiceTransactionType) :
    getReason codes penaltyTypesConfig transaction = "" := by
  simp [getReason, other]

/-- An invoice line of the sanctions company gets the loop's reason. -/
theorem getReason_of_sanctions
    (invoice : transaction.transactionType = codes.invoiceTransactionType)
    (sanctions : transaction.companyCode = codes.sanctionsCompanyCode) :
    getReason codes penaltyTypesConfig transaction =
      getSanctionsReason transaction penaltyTypesConfig := by
  have notLateFiling : transaction.companyCode ≠ codes.lateFilingPenaltyCompanyCode :=
    sanctions ▸ codes.companyCodes_ne.symm
  rw [getReason, if_pos invoice, if_neg notLateFiling, if_pos sanctions]

/-- The reason of every ledger line, for every penalty types list. -/
theorem getReason_by_line_and_table :
    (transaction.transactionType ≠ codes.invoiceTransactionType →
      getReason codes penaltyTypesConfig transaction = "") ∧
    (transaction.transactionType = codes.invoiceTransactionType →
      transaction.companyCode = codes.lateFilingPenaltyCompanyCode →
      getReason codes penaltyTypesConfig transaction = lateFilingPenaltyReason) ∧
    (transaction.transactionType = codes.invoiceTransactionType →
      transaction.companyCode = codes.sanctionsCompanyCode →
      (∃ earlier entry later, penaltyTypesConfig = earlier ++ entry :: later ∧
          entry.transactionSubtype = transaction.transactionSubType ∧
          (∀ skipped ∈ earlier, skipped.transactionSubtype ≠ transaction.transactionSubType) ∧
          getReason codes penaltyTypesConfig transaction = entry.reason) ∨
        ((∀ entry ∈ penaltyTypesConfig,
            entry.transactionSubtype ≠ transaction.transactionSubType) ∧
          getReason codes penaltyTypesConfig transaction = penaltyReason)) ∧
    (transaction.transactionType = codes.invoiceTransactionType →
      transaction.companyCode ≠ codes.lateFilingPenaltyCompanyCode →
      transaction.companyCode ≠ codes.sanctionsCompanyCode →
      getReason codes penaltyTypesConfig transaction = penaltyReason) ∧
    (getReason codes penaltyTypesConfig transaction ≠ "" →
      transaction.transactionType = codes.invoiceTransactionType) := by
  refine ⟨getReason_of_not_invoice codes penaltyTypesConfig transaction,
    fun invoice lateFiling => by simp [getReason, invoice, lateFiling],
    fun invoice sanctions => ?_,
    fun invoice notLateFiling notSanctions => by
      simp [getReason, invoice, notLateFiling, notSanctions],
    fun nonEmpty => Decidable.of_not_not fun other =>
      nonEmpty (getReason_of_not_invoice codes penaltyTypesConfig transaction other)⟩
  rw [getReason_of_sanctions codes penaltyTypesConfig transaction invoice sanctions]
  exact getSanctionsReason_first_match transaction penaltyTypesConfig

/-- Penalty types of other subtypes never change a line's reason. -/
theorem getReason_reads_only_its_subtype (otherConfig : List FinancePenaltyTypeConfig)
    (sameEntries : penaltyTypesConfig.filter (fun entry =>
        entry.transactionSubtype = transaction.transactionSubType) =
      otherConfig.filter fun entry => entry.transactionSubtype = transaction.transactionSubType) :
    getReason codes penaltyTypesConfig transaction = getReason codes otherConfig transaction := by
  by_cases invoice : transaction.transactionType = codes.invoiceTransactionType
  · by_cases sanctions : transaction.companyCode = codes.sanctionsCompanyCode
    · rw [getReason_of_sanctions codes _ transaction invoice sanctions,
        getReason_of_sanctions codes _ transaction invoice sanctions, getSanctionsReason_filter,
        sameEntries, ← getSanctionsReason_filter]
    · simp [getReason, invoice, sanctions]
  · rw [getReason_of_not_invoice codes _ transaction invoice,
      getReason_of_not_invoice codes _ transaction invoice]

/-- An entry of another subtype added in front of the table keeps a line's reason. -/
theorem getReason_reads_only_its_subtype_added_entry :
    let codes : TransactionCodes := ⟨"1", "LP", "SC", by decide⟩
    let confirmationStatement : FinancePenaltyTypeConfig :=
      ⟨"1", "S1", "CS01", false, "Failure to file a confirmation statement"⟩
    let roe : FinancePenaltyTypeConfig :=
      ⟨"1", "A2", "ROE", false, "Failure to update the Register of Overseas Entities"⟩
    let transaction : AccountPenaltiesDataDao := ⟨"SC", "1", "S1"⟩
    [confirmationStatement].filter (fun entry =>
        entry.transactionSubtype = transaction.transactionSubType) =
      [roe, confirmationStatement].filter (fun entry =>
        entry.transactionSubtype = transaction.transactionSubType) ∧
    getReason codes [confirmationStatement] transaction =
      getReason codes [roe, confirmationStatement] transaction := by
  intro codes confirmationStatement roe transaction
  have sameEntries : [confirmationStatement].filter (fun entry =>
      entry.transactionSubtype = transaction.transactionSubType) =
    [roe, confirmationStatement].filter (fun entry =>
      entry.transactionSubtype = transaction.transactionSubType) := by decide
  exact ⟨sameEntries, getReason_reads_only_its_subtype codes _ transaction _ sameEntries⟩

end PenaltyPayment.Private
