/-!
# Speakers

Who speaks a line is told by a three-letter code.
-/

namespace SceneScript

/-- The speakers that have a code, and one for all others. -/
inductive Speaker where
  | announcement
  | captain
  | crewF
  | crewM
  | guestF1
  | guestF2
  | guestF3
  | guestM1
  | guestM2
  | guestM3
  | haruhi
  | koizumi
  | kunikida
  | kyon
  | kyon2
  | mikoto
  | mikuru
  | monologue
  | nagato
  | nagato2
  | kyonSis
  | taiichiro
  | taniguchi
  | tsuruya
  | unknown
  deriving DecidableEq, Repr

namespace Speaker

/-- The code of a speaker. -/
def code : Speaker → String
  | announcement => "ANN"
  | captain => "CAP"
  | crewF => "CRF"
  | crewM => "CRM"
  | guestF1 => "GF1"
  | guestF2 => "GF2"
  | guestF3 => "GF3"
  | guestM1 => "GM1"
  | guestM2 => "GM2"
  | guestM3 => "GM3"
  | haruhi => "HRH"
  | koizumi => "KZM"
  | kunikida => "KUN"
  | kyon => "KYN"
  | kyon2 => "KY2"
  | mikoto => "MKT"
  | mikuru => "MKR"
  | monologue => "MNL"
  | nagato => "NGT"
  | nagato2 => "NG2"
  | kyonSis => "SIS"
  | taiichiro => "TAI"
  | taniguchi => "TAN"
  | tsuruya => "TRY"
  | unknown => "UNK"

/-- The name of a speaker in an exported project. -/
def name : Speaker → String
  | announcement => "Announcement"
  | captain => "Captain"
  | crewF => "CrewF"
  | crewM => "CrewM"
  | guestF1 => "GuestF1"
  | guestF2 => "GuestF2"
  | guestF3 => "GuestF3"
  | guestM1 => "GuestM1"
  | guestM2 => "GuestM2"
  | guestM3 => "GuestM3"
  | haruhi => "Haruhi"
  | koizumi => "Koizumi"
  | kunikida => "Kunikida"
  | kyon => "Kyon"
  | kyon2 => "Kyon2"
  | mikoto => "Mikoto"
  | mikuru => "Mikuru"
  | monologue => "Monologue"
  | nagato => "Nagato"
  | nagato2 => "Nagato2"
  | kyonSis => "KyonSis"
  | taiichiro => "Taiichiro"
  | taniguchi => "Taniguchi"
  | tsuruya => "Tsuruya"
  | unknown => "Unknown"

/-- The speakers that have a code of their own. -/
def known : List Speaker := [
  announcement, captain, crewF, crewM, guestF1, guestF2, guestF3, guestM1, guestM2, guestM3, haruhi, koizumi, kunikida, kyon, kyon2,
  mikoto, mikuru, monologue, nagato, nagato2, kyonSis, taiichiro, taniguchi, tsuruya]

/-- The speaker with a given code; a code that no speaker has means an unknown one. -/
def ofCode (code : String) : Speaker :=
  (known.find? fun speaker => speaker.code = code).getD unknown

/-- The words of a name in capitals, joined by underscores. A capital letter starts a word. -/
def capitals : List Char → List Char
  | [] => []
  | c :: rest => (if c.isUpper then ['_', c] else [c.toUpper]) ++ capitals rest

/-- The name of a speaker as a constant: `GUEST_F1`. -/
def constantName (speaker : Speaker) : String :=
  String.ofList ((capitals speaker.name.toList).drop 1)

theorem ofCode_code (speaker : Speaker) : ofCode speaker.code = speaker := by
  cases speaker <;> decide

end Speaker

end SceneScript
