import OpnsensePlugin.Python.Decimal
import OpnsensePlugin.Python.Lines
import OpnsensePlugin.Routes.Overview

/-!
# Certificates that expire soon

The API gives the end of a certificate in seconds since the beginning of 1970.
The collector reads dates as OpenSSL prints them, and counts zero days for any
other text, which is within the warning period of the overview.
-/

namespace OpnsensePlugin

open Effects Python

/-- The end of a certificate, in one of the two forms of the API -/
inductive Expiry
  | epoch (seconds : Nat)
  | openssl (date : DateTime) (valid : date.isValid = true)

namespace Expiry

def text : Expiry → Str
  | .epoch seconds => natText seconds
  | .openssl date _ => Matcher.opensslText date

/-- The seconds from the beginning of 1970 to the end of the certificate -/
def instant : Expiry → Int
  | .epoch seconds => seconds
  | .openssl date _ => date.timestamp

/-- Fewer than 31 days are left, where `now` counts microseconds. -/
def IsSoon (expiry : Expiry) (now : Int) : Prop :=
  expiry.instant * 1000000 < now + 31 * 86400 * 1000000

instance {expiry : Expiry} {now : Int} : Decidable (expiry.IsSoon now) :=
  inferInstanceAs (Decidable (_ < _))

end Expiry

/-! ## The count of days -/

section Days

variable {zones : List Str} {now : Int} {date : DateTime}

theorem strip_opensslText (valid : date.isValid = true) :
    strip (Matcher.opensslText date) = Matcher.opensslText date := by
  simp only [DateTime.isValid, Bool.and_eq_true, decide_eq_true_eq] at valid
  have titles : ∀ month < 12, ∃ first rest, Matcher.monthTitles.getD month [] = first :: rest ∧
      isSpace first = false := by
    have all : ∀ month < 12, (Matcher.monthTitles.getD month []).head?.any
        (fun first => !isSpace first) = true := by decide
    intro month small
    have starts := all month small
    cases title : Matcher.monthTitles.getD month [] with
    | nil =>
        rw [title] at starts
        cases starts
    | cons first rest =>
        rw [title] at starts
        exact ⟨first, rest, rfl, by simpa using starts⟩
  rcases titles (date.month - 1) (by omega) with ⟨first, rest, title, visible⟩
  have ends : ∃ middle, Matcher.opensslText date = first :: (middle ++ code 'T' :: []) := by
    refine ⟨rest ++ code ' ' :: (Matcher.dayText date.day ++ code ' ' ::
      (Matcher.paddedText date.hour ++ code ':' :: (Matcher.paddedText date.minute ++ code ':' ::
        (Matcher.paddedText date.second ++ code ' ' :: (Matcher.yearText date.year ++
          [code ' ', code 'G', code 'M']))))), ?_⟩
    have zone : ("GMT" : Str) = [code 'G', code 'M', code 'T'] := rfl
    rw [Matcher.opensslText, title, zone]
    simp only [List.cons_append, List.append_assoc, List.nil_append]
  rcases ends with ⟨middle, same⟩
  rw [same, strip_bracketed visible (by decide)]
  rfl

theorem parseDaysTo_openssl (valid : date.isValid = true) :
    parseDaysTo zones now (Matcher.opensslText date) = daysFrom now date := by
  have some : (Matcher.opensslText date).isEmpty = false := by
    simp [Matcher.opensslText]
  simp [parseDaysTo, some, strip_opensslText valid, Matcher.strptime_opensslText valid]

/-- Digits are no date, and what is no date counts as zero days. -/
theorem parseDaysTo_epoch (seconds : Nat) : parseDaysTo zones now (natText seconds) = 0 := by
  have digits : ∀ c ∈ natText seconds, isAsciiDigit c = true := fun c => isAsciiDigit_of_mem_natText
  have stripped : strip (natText seconds) = natText seconds :=
    strip_of_visible fun c member => isSpace_of_isAsciiDigit (digits c member)
  rcases List.exists_cons_of_ne_nil (@natText_ne_nil seconds) with ⟨first, rest, same⟩
  have digit : isAsciiDigit first = true := digits first (by simp [same])
  have zoned : Matcher.strptime (Matcher.zonedDate zones) (first :: rest) = none :=
    Matcher.strptime_none (Matcher.zonedDate_none (Matcher.date_none digit))
  have plain : Matcher.strptime Matcher.date (first :: rest.take 23) = none :=
    Matcher.strptime_none (Matcher.date_none digit)
  rw [parseDaysTo, stripped, same, zoned]
  simp [plain]

theorem daysFrom_le_iff : daysFrom now date ≤ 30 ↔
    date.timestamp * 1000000 < now + 31 * 86400 * 1000000 := by
  rw [daysFrom, Int.fdiv_eq_ediv_of_nonneg _ (by omega)]
  omega

end Days

/-! ## The rows of the API -/

/-- A row whose `valid_to` has one of the forms of the API -/
structure CertRow where
  fields : List (Str × Json)
  expiry : Expiry
  stated : fieldD fields "valid_to" .null = .str expiry.text

def CertRow.json (row : CertRow) : Json := .obj row.fields

section Rows

variable {zones : List Str} {clock : Nat → Int} {start : Nat} {rows : List CertRow}
  {certs : List CertSummary}

theorem Expiry.text_ne_nil (expiry : Expiry) : expiry.text ≠ [] := by
  cases expiry with
  | epoch seconds => exact natText_ne_nil
  | openssl date valid => simp [text, Matcher.opensslText]

theorem daysToExpiry_eq [Runtime] {now : Int} {row : CertRow} {cert : CertSummary}
    (found : certSummary zones now row.json = .ok cert) :
    cert.daysToExpiry = parseDaysTo zones now row.expiry.text := by
  simp only [certSummary, CertRow.json, bind_eq_ok, pure_eq_ok] at found
  rcases found with ⟨stated, read, _, _, _, _, _, _, _, _, _, _, _, _, _, _, _, _, _, _, rfl⟩
  cases read
  have some : (Json.str row.expiry.text).truthy = true := by
    simpa [Json.truthy] using row.expiry.text_ne_nil
  rw [row.stated, if_pos some]
  rfl

/-- A row in seconds counts as expiring soon, any other one if it does. -/
theorem daysToExpiry_le_iff [Runtime] {now : Int} {row : CertRow} {cert : CertSummary}
    (found : certSummary zones now row.json = .ok cert) :
    cert.daysToExpiry ≤ certExpiryWarningDays ↔
      (∃ seconds, row.expiry = .epoch seconds) ∨ row.expiry.IsSoon now := by
  rw [daysToExpiry_eq found, certExpiryWarningDays]
  cases same : row.expiry with
  | epoch seconds => simp [Expiry.text, parseDaysTo_epoch]
  | openssl date valid =>
      rw [Expiry.text, parseDaysTo_openssl valid, daysFrom_le_iff]
      simp [Expiry.IsSoon, Expiry.instant]

/-- The certificates that really expire within 31 days of the reading for their row -/
def soonCerts (clock : Nat → Int) (rows : List (CertRow × Nat)) (certs : List CertSummary) :
    List CertSummary :=
  (rows.zip certs).filterMap fun entry =>
    if entry.1.1.expiry.IsSoon (clock entry.1.2) then some entry.2 else none

/-- `certs_expiring` -/
def expiringCerts (certs : List CertSummary) : List CertSummary :=
  certs.filter fun cert => cert.daysToExpiry ≤ certExpiryWarningDays

/-- The rows that tell their end in seconds expire within 31 days. -/
def EpochsAreSoon (clock : Nat → Int) (rows : List (CertRow × Nat)) : Prop :=
  ∀ entry ∈ rows, ∀ seconds, entry.1.expiry = .epoch seconds →
    entry.1.expiry.IsSoon (clock entry.2)

variable [Runtime] {entries : List (CertRow × Nat)}

/-- No certificate that expires soon is left out. -/
theorem soonCerts_sublist (collected : List.Forall₂ (fun entry cert =>
    certSummary zones (clock entry.2) entry.1.json = .ok cert) entries certs) :
    (soonCerts clock entries certs).Sublist (expiringCerts certs) := by
  induction collected with
  | nil => exact List.Sublist.refl _
  | cons found rest ih =>
      rename_i entry cert entries certs
      have days := daysToExpiry_le_iff found
      simp only [soonCerts, expiringCerts, List.zip_cons_cons, List.filterMap_cons,
        List.filter_cons] at ih ⊢
      by_cases soon : entry.1.expiry.IsSoon (clock entry.2)
      · have kept := days.mpr (Or.inr soon)
        simpa [soon, kept] using ih
      · by_cases kept : cert.daysToExpiry ≤ certExpiryWarningDays
        · simpa [soon, kept] using ih.cons cert
        · simpa [soon, kept] using ih

theorem expiringCerts_eq_iff (collected : List.Forall₂ (fun entry cert =>
    certSummary zones (clock entry.2) entry.1.json = .ok cert) entries certs) :
    expiringCerts certs = soonCerts clock entries certs ↔ EpochsAreSoon clock entries := by
  induction collected with
  | nil => simp [expiringCerts, soonCerts, EpochsAreSoon]
  | cons found rest ih =>
      rename_i entry cert entries certs
      have days := daysToExpiry_le_iff found
      have fewer := (soonCerts_sublist rest).length_le
      simp only [EpochsAreSoon, List.forall_mem_cons] at ih ⊢
      rw [← ih]
      simp only [soonCerts, expiringCerts, List.zip_cons_cons, List.filterMap_cons,
        List.filter_cons] at fewer ⊢
      by_cases soon : entry.1.expiry.IsSoon (clock entry.2)
      · have kept := days.mpr (Or.inr soon)
        simp [soon, kept]
      · rw [if_neg soon]
        by_cases kept : cert.daysToExpiry ≤ certExpiryWarningDays
        · rcases days.mp kept with ⟨seconds, same⟩ | really
          · have longer : ¬ cert :: expiringCerts certs = soonCerts clock entries certs := by
              intro equal
              have lengths := congrArg List.length equal
              simp only [soonCerts, expiringCerts, List.length_cons] at lengths
              omega
            simp only [kept, decide_true, if_true]
            exact ⟨fun equal => absurd equal longer, fun both => absurd (both.1 seconds same) soon⟩
          · exact absurd really soon
        · have other : ∀ seconds, entry.1.expiry ≠ .epoch seconds := fun seconds same =>
            kept (days.mpr (Or.inl ⟨seconds, same⟩))
          simp [kept, other]

end Rows

/-! ## The overview -/

/--
The overview has an entry for each certificate, and it warns about exactly those
that expire within 31 days if and only if those that are told by seconds do.
-/
theorem buildOverview_expiring_iff [Runtime] [Floats] {answers : NodeAnswers} {overview : Overview}
    {payload : List (Str × Json)} {rows : List CertRow}
    (replied : answers.reply certSearchPath = .ok (.obj payload))
    (listed : field payload "rows" = some (.arr (rows.map CertRow.json)))
    (collected : collectOverview answers = .ok overview) :
    buildOverview answers = .ok overview.json ∧ overview.certs.length = rows.length ∧
      (overview.certsExpiring = soonCerts answers.now rows.zipIdx overview.certs ↔
        EpochsAreSoon answers.now rows.zipIdx) := by
  refine ⟨by simp [buildOverview, collected], ?_⟩
  simp only [collectOverview, bind_eq_ok, pure_eq_ok] at collected
  rcases collected with ⟨_, _, _, _, _, _, _, _, _, _, _, _, certs, found, _, _, rfl⟩
  simp only [collectCertificates, NodeAnswers.get, replied, received, memberOf, fieldD, listed,
    bind_eq_ok, itemsOf, Except.ok.injEq, exists_eq_left'] at found
  rw [Option.getD_some] at found
  rcases found with ⟨_, ⟨⟩, found⟩
  rw [mapM_eq_ok_iff, List.zipIdx_map, List.forall₂_map_left_iff] at found
  have counted : certs.length = rows.length := by
    rw [← found.length_eq, List.length_zipIdx]
  exact ⟨counted, expiringCerts_eq_iff found⟩

/-- The certificate of a web server, as a node lists it -/
def webRow : CertRow where
  fields := [("uuid", .str "web"), ("valid_to", .str "1812720758")]
  expiry := .epoch 1812720758
  stated := rfl

/-- A node that lists this certificate and nothing else -/
def webNode (now : Int) : NodeAnswers :=
  answeringNode certSearchPath [("rows", .arr [webRow.json])] (by simp) now

def webOverview : Overview :=
  { Overview.silent with certs := [⟨"web", [], [], [], [], "1812720758", 0, false, false, [], []⟩] }

/-- What the node collects does not depend on the time. -/
theorem collectOverview_web (now : Int) :
    @collectOverview Runtime.ascii Floats.unused (webNode now) = .ok webOverview := by
  rfl

/-- The certificate of a mail server, with a date -/
def mailRow : CertRow where
  fields := [("uuid", .str "mail"), ("valid_to", .str "Jan  1 00:00:00 2030 GMT")]
  expiry := .openssl ⟨2030, 1, 1, 0, 0, 0⟩ (by decide)
  stated := rfl

def bothRows : List CertRow := [webRow, mailRow]

/-- A node that lists both, in the week before the first one ends -/
def bothNode : NodeAnswers :=
  answeringNode certSearchPath [("rows", .arr (bothRows.map CertRow.json))] (by simp) 1812000000000000

def bothOverview : Overview :=
  { Overview.silent with
    certs := [⟨"web", [], [], [], [], "1812720758", 0, false, false, [], []⟩,
      ⟨"mail", [], [], [], [], "Jan  1 00:00:00 2030 GMT", 942, false, false, [], []⟩] }

set_option maxRecDepth 8000 in
theorem collectOverview_both :
    @collectOverview Runtime.ascii Floats.unused bothNode = .ok bothOverview := by
  rfl

/-- Of the two certificates the first one is warned about, which ends in June 2027. -/
theorem buildOverview_expiring_web :
    bothOverview.certsExpiring = soonCerts bothNode.now bothRows.zipIdx bothOverview.certs ∧
      bothOverview.certsExpiring = webOverview.certs := by
  refine ⟨((@buildOverview_expiring_iff Runtime.ascii Floats.unused bothNode _ _ bothRows rfl rfl
    collectOverview_both).2.2).mpr ?_, rfl⟩
  intro entry member seconds told
  rcases List.mem_cons.mp member with rfl | rest
  · decide
  · rw [List.mem_singleton.mp rest] at told
    cases told

/-- It is warned about as well on the day of its issue, 397 days before its end. -/
theorem buildOverview_expiring_early :
    @buildOverview Runtime.ascii Floats.unused (webNode 1778419958000000) = .ok webOverview.json ∧
      ¬ webRow.expiry.IsSoon 1778419958000000 ∧
      webOverview.certsExpiring = webOverview.certs ∧
      soonCerts (webNode 1778419958000000).now [webRow].zipIdx webOverview.certs = [] := by
  refine ⟨?_, by decide, rfl, rfl⟩
  simp only [buildOverview, bind_eq_ok, pure_eq_ok]
  exact ⟨webOverview, collectOverview_web _, rfl⟩

end OpnsensePlugin
