import Liblinphone.Utils

/-! The dial plans: how many digits the numbers of a country have, and the code that is put
before them. A number is brought to the international form of a plan, and the code of a number
in that form is looked up. -/

namespace Liblinphone

structure DialPlan where
  country : Text
  isoCountryCode : Text
  countryCallingCode : Text
  minNationalNumberLength : Nat
  maxNationalNumberLength : Nat
  internationalCallPrefix : Text
  nationalNumberLengthFunction : Option (Text → Nat) := none

namespace DialPlan

def create (country isoCountryCode ccc : String) (minNnl maxNnl : Nat) (icp : String)
    (nationalNumberLengthFunction : Option (Text → Nat) := none) : DialPlan where
  country := country.toList
  isoCountryCode := isoCountryCode.toList
  countryCallingCode := ccc.toList
  minNationalNumberLength := minNnl
  maxNationalNumberLength := maxNnl
  internationalCallPrefix := icp.toList
  nationalNumberLengthFunction := nationalNumberLengthFunction

/-- In Belgium the zero before eight digits does not count. -/
def belgianLength (phoneNumber : Text) : Nat :=
  if phoneNumber.length = 9 ∧ phoneNumber.head? = some '0' then 8 else phoneNumber.length

def sDialPlans : List DialPlan := [
  .create "Afghanistan" "AF" "93" 9 9 "00",
  .create "Albania" "AL" "355" 3 9 "00",
  .create "Algeria" "DZ" "213" 8 9 "00",
  .create "American Samoa" "AS" "1" 10 10 "011",
  .create "Andorra" "AD" "376" 6 6 "00",
  .create "Angola" "AO" "244" 9 9 "00",
  .create "Anguilla" "AI" "1" 10 10 "011",
  .create "Antigua and Barbuda" "AG" "1" 10 10 "011",
  .create "Argentina" "AR" "54" 10 10 "00",
  .create "Armenia" "AM" "374" 8 8 "00",
  .create "Aruba" "AW" "297" 7 7 "011",
  .create "Australia" "AU" "61" 9 9 "0011",
  .create "Austria" "AT" "43" 4 13 "00",
  .create "Azerbaijan" "AZ" "994" 8 9 "00",
  .create "Bahamas" "BS" "1" 10 10 "011",
  .create "Bahrain" "BH" "973" 8 8 "00",
  .create "Bangladesh" "BD" "880" 6 10 "00",
  .create "Barbados" "BB" "1" 10 10 "011",
  .create "Belarus" "BY" "375" 9 9 "00",
  .create "Belgium" "BE" "32" 8 9 "00" (some belgianLength),
  .create "Belize" "BZ" "501" 7 7 "00",
  .create "Benin" "BJ" "229" 8 8 "00",
  .create "Bermuda" "BM" "1" 10 10 "011",
  .create "Bhutan" "BT" "975" 7 8 "00",
  .create "Bolivia" "BO" "591" 8 8 "00",
  .create "Bosnia and Herzegovina" "BA" "387" 8 8 "00",
  .create "Botswana" "BW" "267" 7 8 "00",
  .create "Brazil" "BR" "55" 8 11 "00",
  .create "Brunei Darussalam" "BN" "673" 7 7 "00",
  .create "Bulgaria" "BG" "359" 7 9 "00",
  .create "Burkina Faso" "BF" "226" 8 8 "00",
  .create "Burundi" "BI" "257" 8 8 "011",
  .create "Cambodia" "KH" "855" 8 9 "00",
  .create "Cameroon" "CM" "237" 8 9 "00",
  .create "Canada" "CA" "1" 10 10 "011",
  .create "Cape Verde" "CV" "238" 7 7 "00",
  .create "Cayman Islands" "KY" "1" 10 10 "011",
  .create "Central African Republic" "CF" "236" 8 8 "00",
  .create "Chad" "TD" "235" 8 8 "00",
  .create "Chile" "CL" "56" 8 9 "00",
  .create "China" "CN" "86" 7 11 "00",
  .create "Colombia" "CO" "57" 8 10 "00",
  .create "Comoros" "KM" "269" 7 7 "00",
  .create "Cook Islands" "CK" "682" 5 5 "00",
  .create "Costa Rica" "CR" "506" 8 8 "00",
  .create "Cote d'Ivoire" "AD" "225" 8 8 "00",
  .create "Croatia" "HR" "385" 7 9 "00",
  .create "Cuba" "CU" "53" 6 8 "119",
  .create "Curacao" "CUR" "599" 7 8 "011",
  .create "Cyprus" "CY" "357" 8 8 "00",
  .create "Czech Republic" "CZ" "420" 9 9 "00",
  .create "Democratic Republic of the Congo" "CD" "243" 5 9 "00",
  .create "Denmark" "DK" "45" 8 8 "00",
  .create "Djibouti" "DJ" "253" 8 8 "00",
  .create "Dominica" "DM" "1" 10 10 "011",
  .create "Dominican Republic" "DO" "1" 10 10 "011",
  .create "East Timor" "TLS" "670" 7 8 "00",
  .create "Ecuador" "EC" "593" 8 9 "00",
  .create "Egypt" "EG" "20" 8 10 "00",
  .create "El Salvador" "SV" "503" 7 8 "00",
  .create "Equatorial Guinea" "GQ" "240" 9 9 "00",
  .create "Eritrea" "ER" "291" 7 7 "00",
  .create "Estonia" "EE" "372" 7 8 "00",
  .create "Eswatini" "SZ" "268" 7 8 "00",
  .create "Ethiopia" "ET" "251" 9 9 "00",
  .create "Falkland Islands" "FK" "500" 5 5 "00",
  .create "Faroe Islands" "FO" "298" 6 6 "00",
  .create "Fiji" "FJ" "679" 7 7 "00",
  .create "Finland" "FI" "358" 5 12 "00",
  .create "France" "FR" "33" 9 9 "00",
  .create "French Guiana" "GF" "594" 9 9 "00",
  .create "French Polynesia" "PF" "689" 6 6 "00",
  .create "Gabon" "GA" "241" 7 8 "00",
  .create "Gambia" "GM" "220" 7 7 "00",
  .create "Georgia" "GE" "995" 9 9 "00",
  .create "Germany" "DE" "49" 6 12 "00",
  .create "Ghana" "GH" "233" 5 9 "00",
  .create "Gibraltar" "GI" "350" 8 8 "00",
  .create "Greece" "GR" "30" 10 10 "00",
  .create "Greenland" "GL" "299" 6 6 "00",
  .create "Grenada" "GD" "1" 10 10 "011",
  .create "Guadeloupe" "GP" "590" 9 9 "00",
  .create "Guam" "GU" "1" 10 10 "011",
  .create "Guatemala" "GT" "502" 8 8 "00",
  .create "Guinea" "GN" "224" 8 8 "00",
  .create "Guinea-Bissau" "GW" "245" 7 7 "00",
  .create "Guyana" "GY" "592" 7 7 "001",
  .create "Haiti" "HT" "509" 8 8 "00",
  .create "Honduras" "HN" "504" 8 8 "00",
  .create "Hong Kong" "HK" "852" 8 8 "001",
  .create "Hungary" "HU" "36" 8 9 "00",
  .create "Iceland" "IS" "354" 7 7 "00",
  .create "India" "IN" "91" 7 10 "00",
  .create "Indonesia" "ID" "62" 7 12 "001",
  .create "Iran" "IR" "98" 6 10 "00",
  .create "Iraq" "IQ" "964" 8 10 "00",
  .create "Ireland" "IE" "353" 7 9 "00",
  .create "Israel" "IL" "972" 8 9 "00",
  .create "Italy" "IT" "39" 6 11 "00",
  .create "Jamaica" "JM" "1" 10 10 "011",
  .create "Japan" "JP" "81" 8 10 "010",
  .create "Jordan" "JO" "962" 5 9 "00",
  .create "Kenya" "KE" "254" 6 9 "000",
  .create "Kiribati" "KI" "686" 5 5 "00",
  .create "Korea, North" "KP" "850" 8 12 "99",
  .create "Korea, South" "KR" "82" 8 12 "001",
  .create "Kosovo" "KOS" "383" 8 8 "00",
  .create "Kuwait" "KW" "965" 7 8 "00",
  .create "Kyrgyzstan" "KG" "996" 9 9 "00",
  .create "Laos" "LA" "856" 8 10 "00",
  .create "Latvia" "LV" "371" 7 8 "00",
  .create "Lebanon" "LB" "961" 7 8 "00",
  .create "Lesotho" "LS" "266" 8 8 "00",
  .create "Liberia" "LR" "231" 7 8 "00",
  .create "Libya" "LY" "218" 8 10 "00",
  .create "Liechtenstein" "LI" "423" 7 7 "00",
  .create "Lithuania" "LT" "370" 8 8 "00",
  .create "Luxembourg" "LU" "352" 4 9 "00",
  .create "Macau" "MO" "853" 7 8 "00",
  .create "Madagascar" "MG" "261" 9 9 "00",
  .create "Malawi" "MW" "265" 7 9 "00",
  .create "Malaysia" "MY" "60" 7 10 "00",
  .create "Maldives" "MV" "960" 7 7 "00",
  .create "Mali" "ML" "223" 8 8 "00",
  .create "Malta" "MT" "356" 8 8 "00",
  .create "Marshall Islands" "MH" "692" 7 7 "011",
  .create "Martinique" "MQ" "596" 9 9 "00",
  .create "Mauritania" "MR" "222" 8 8 "00",
  .create "Mauritius" "MU" "230" 7 7 "00",
  .create "Mexico" "MX" "52" 10 11 "00",
  .create "Micronesia" "FM" "691" 7 7 "011",
  .create "Moldova" "MD" "373" 8 8 "00",
  .create "Monaco" "MC" "377" 8 8 "00",
  .create "Mongolia" "MN" "976" 7 8 "001",
  .create "Montenegro" "ME" "382" 8 8 "00",
  .create "Montserrat" "MS" "1" 10 10 "011",
  .create "Morocco" "MA" "212" 9 9 "00",
  .create "Mozambique" "MZ" "258" 8 9 "00",
  .create "Myanmar" "MM" "95" 7 10 "00",
  .create "Namibia" "NA" "264" 8 9 "00",
  .create "Nauru" "NR" "674" 4 7 "00",
  .create "Nepal" "NP" "977" 8 8 "00",
  .create "Netherlands" "NL" "31" 9 9 "00",
  .create "New Caledonia" "NC" "687" 6 6 "00",
  .create "New Zealand" "NZ" "64" 3 10 "00",
  .create "Nicaragua" "NI" "505" 8 8 "00",
  .create "Niger" "NE" "227" 8 8 "00",
  .create "Nigeria" "NG" "234" 7 10 "009",
  .create "Niue" "NU" "683" 4 4 "00",
  .create "Norfolk Island" "NF" "672" 6 6 "00",
  .create "North Macedonia" "MK" "389" 8 8 "00",
  .create "Northern Mariana Islands" "MP" "1" 10 10 "011",
  .create "Norway" "NO" "47" 5 8 "00",
  .create "Oman" "OM" "968" 7 8 "00",
  .create "Pakistan" "PK" "92" 6 10 "00",
  .create "Palau" "PW" "680" 7 7 "011",
  .create "Palestine" "PS" "970" 9 9 "00",
  .create "Panama" "PA" "507" 7 8 "00",
  .create "Papua New Guinea" "PG" "675" 7 8 "00",
  .create "Paraguay" "PY" "595" 5 9 "00",
  .create "Peru" "PE" "51" 8 9 "00",
  .create "Philippines" "PH" "63" 8 10 "00",
  .create "Poland" "PL" "48" 6 9 "00",
  .create "Portugal" "PT" "351" 9 9 "00",
  .create "Puerto Rico" "PR" "1" 10 10 "011",
  .create "Qatar" "QA" "974" 3 8 "00",
  .create "Republic of the Congo" "CG" "242" 9 9 "00",
  .create "Reunion Island" "RE" "262" 9 9 "011",
  .create "Romania" "RO" "40" 9 9 "00",
  .create "Russian Federation" "RU" "7" 10 10 "8",
  .create "Rwanda" "RW" "250" 9 9 "00",
  .create "Saint Helena" "SH" "290" 4 4 "00",
  .create "Saint Kitts and Nevis" "KN" "1" 10 10 "011",
  .create "Saint Lucia" "LC" "1" 10 10 "011",
  .create "Saint Pierre and Miquelon" "PM" "508" 6 6 "00",
  .create "Saint Vincent and the Grenadines" "VC" "1" 10 10 "011",
  .create "Samoa" "WS" "685" 3 7 "0",
  .create "San Marino" "SM" "378" 6 10 "00",
  .create "Sao Tome and Principe" "ST" "239" 7 7 "00",
  .create "Saudi Arabia" "SA" "966" 8 9 "00",
  .create "Senegal" "SN" "221" 9 9 "00",
  .create "Serbia" "RS" "381" 6 9 "00",
  .create "Seychelles" "SC" "248" 7 7 "00",
  .create "Sierra Leone" "SL" "232" 8 8 "00",
  .create "Singapore" "SG" "65" 8 8 "001",
  .create "Slovakia" "SK" "421" 4 9 "00",
  .create "Slovenia" "SI" "386" 8 8 "00",
  .create "Solomon Islands" "SB" "677" 5 7 "00",
  .create "Somalia" "SO" "252" 5 8 "00",
  .create "South Africa" "ZA" "27" 9 9 "00",
  .create "South Sudan" "SSD" "211" 9 9 "00",
  .create "Spain" "ES" "34" 9 9 "00",
  .create "Sri Lanka" "LK" "94" 9 9 "00",
  .create "Sudan" "SD" "249" 9 9 "00",
  .create "Suriname" "SR" "597" 6 7 "00",
  .create "Sweden" "SE" "46" 7 9 "00",
  .create "Switzerland" "XK" "41" 9 9 "00",
  .create "Syria" "SY" "963" 8 9 "00",
  .create "Taiwan" "TW" "886" 8 9 "810",
  .create "Tajikistan" "TJ" "992" 9 9 "002",
  .create "Tanzania" "TZ" "255" 9 9 "000",
  .create "Thailand" "TH" "66" 8 9 "001",
  .create "Togo" "TG" "228" 8 8 "00",
  .create "Tokelau" "TK" "690" 4 4 "00",
  .create "Tonga" "TO" "676" 5 7 "00",
  .create "Trinidad and Tobago" "TT" "1" 10 10 "011",
  .create "Tunisia" "TN" "216" 8 8 "00",
  .create "Turkey" "TR" "90" 10 10 "00",
  .create "Turkmenistan" "TM" "993" 8 8 "00",
  .create "Turks and Caicos Islands" "TC" "1" 7 7 "0",
  .create "Tuvalu" "TV" "688" 5 5 "00",
  .create "Uganda" "UG" "256" 9 9 "000",
  .create "Ukraine" "UA" "380" 9 9 "00",
  .create "United Arab Emirates" "AE" "971" 8 9 "00",
  .create "United Kingdom" "GB" "44" 7 10 "00",
  .create "United States" "US" "1" 10 10 "011",
  .create "Uruguay" "UY" "598" 8 8 "00",
  .create "Uzbekistan" "UZ" "998" 9 9 "8",
  .create "Vanuatu" "VU" "678" 5 7 "00",
  .create "Venezuela" "VE" "58" 10 10 "00",
  .create "Vietnam" "VN" "84" 7 10 "00",
  .create "Wallis and Futuna" "WF" "681" 6 6 "00",
  .create "Yemen" "YE" "967" 6 9 "00",
  .create "Zambia" "ZM" "260" 9 9 "00",
  .create "Zimbabwe" "ZW" "263" 9 9 "00"]

/-- The plan of a country that is not known. -/
def mostCommon : DialPlan := .create "generic" "" "" 0 10 "00"

/-- What a C string reads of a text. -/
def cString (text : Text) : Text := text.takeWhile (· != '\x00')

/-- `strncmp` finds no difference. -/
def strncmpEqual (first second : Text) (count : Nat) : Bool :=
  (cString first ++ ['\x00']).take count == (cString second ++ ['\x00']).take count

/-- The plans whose code agrees with a number as far as it was read. -/
def agreeing (number : Text) (i : BitVec 32) : List DialPlan :=
  sDialPlans.filter fun dp => strncmpEqual dp.countryCallingCode number i.toNat

/-- The search with a longer and longer start of the number. The counter has 32 bits, the
length of the number does not. -/
def lookupLoop (e164 : Text) : Nat → BitVec 32 → Option DialPlan → Option Int
  | 0, _, _ => none
  | fuel + 1, last, elected =>
    let i := last + 1
    let plans := agreeing e164.tail i
    let elected := plans.getLast?.or elected
    let found := plans.length
    if (found > 1 ∨ found = 0) ∧ i.toNat < e164.length - 1 then lookupLoop e164 fuel i elected
    else some (if found = 1 then elected.elim (-1) fun dp => Utils.stoi dp.countryCallingCode else -1)

/-- The code of a number, if the search ends within some rounds. -/
def lookupCccFromE164 (fuel : Nat) (e164 : Text) : Option Int :=
  if e164.head? ≠ some '+' then some (-1)
  else if e164.tail.head? = some '1' then some 1
  else lookupLoop e164 fuel 0 none

def lookupCccFromIso (iso : Text) : Int :=
  (sDialPlans.find? fun dp => dp.isoCountryCode == iso).elim (-1) fun dp => Utils.stoi dp.countryCallingCode

def isGeneric (dp : DialPlan) : Bool := dp.country == mostCommon.country

def findByCcc (ccc : Text) : DialPlan :=
  if ccc.isEmpty then mostCommon
  else (sDialPlans.find? fun dp => dp.countryCallingCode == ccc).getD mostCommon

section Formatting

variable (unescape : Text → Text)

/-- The signs that do not matter for a number are taken away. -/
def flattenPhoneNumber (number : Text) : Text :=
  (unescape (cString number)).filter fun char => char == '+' || char.isDigit

/-- A number that is nothing but the code of the plan keeps it. -/
def getSignificantDigits (dp : DialPlan) (phoneNumber : Text) : Text :=
  let flatten := flattenPhoneNumber unescape phoneNumber
  let flatten := if flatten.head? = some '+' then flatten.drop 1 else flatten
  if dp.countryCallingCode.isPrefixOf flatten ∧ flatten.length ≠ dp.countryCallingCode.length then
    flatten.drop dp.countryCallingCode.length
  else flatten

def nationalNumberLength (dp : DialPlan) (flatten : Text) : Nat :=
  match dp.nationalNumberLengthFunction with
  | some length => min dp.maxNationalNumberLength (length flatten)
  | none => dp.maxNationalNumberLength

def formatPhoneNumber (dp : DialPlan) (phoneNumber : Text) (escapePlus : Bool) : Text :=
  if dp.countryCallingCode.isEmpty then phoneNumber
  else
    let start := (if escapePlus then dp.internationalCallPrefix else ['+']) ++ dp.countryCallingCode
    let flatten := dp.getSignificantDigits unescape phoneNumber
    let length := dp.nationalNumberLength flatten
    if flatten.length > length then start ++ flatten.drop (flatten.length - length)
    else if flatten.length < dp.minNationalNumberLength then phoneNumber
    else start ++ flatten

end Formatting

end DialPlan

end Liblinphone
