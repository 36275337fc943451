import Phrasebook.Locale.Lookup

/-! The names that locales have for weekdays, months, eras and halves of the day. -/
namespace Phrasebook

/-- Weekdays start with Monday. A name that stands alone may differ from one within a date. -/
structure DateNames where
  weekdays : List String
  months : List String := []
  shortWeekdays : List String := weekdays
  shortMonths : List String := months
  aloneWeekdays : List String := weekdays
  aloneMonths : List String := months
  aloneShortWeekdays : List String := shortWeekdays
  aloneShortMonths : List String := shortMonths
  /-- Before the common era, and in it. -/
  eras : List String := ["BCE", "CE"]
  /-- Before noon, and after it. -/
  periods : List String := ["AM", "PM"]
deriving DecidableEq, Repr

namespace DateNames

def root : DateNames where
  weekdays := ["Mon", "Tue", "Wed", "Thu", "Fri", "Sat", "Sun"]
  months := ["M01", "M02", "M03", "M04", "M05", "M06", "M07", "M08", "M09", "M10", "M11", "M12"]

def english : DateNames where
  weekdays := ["Monday", "Tuesday", "Wednesday", "Thursday", "Friday", "Saturday", "Sunday"]
  months :=
    ["January", "February", "March", "April", "May", "June", "July", "August", "September",
     "October", "November", "December"]
  shortWeekdays := ["Mon", "Tue", "Wed", "Thu", "Fri", "Sat", "Sun"]
  shortMonths :=
    ["Jan", "Feb", "Mar", "Apr", "May", "Jun", "Jul", "Aug", "Sep", "Oct", "Nov", "Dec"]
  eras := ["BC", "AD"]

def british : DateNames :=
  { english with
    shortMonths :=
      ["Jan", "Feb", "Mar", "Apr", "May", "Jun", "Jul", "Aug", "Sept", "Oct", "Nov", "Dec"]
    aloneShortMonths :=
      ["Jan", "Feb", "Mar", "Apr", "May", "Jun", "Jul", "Aug", "Sept", "Oct", "Nov", "Dec"] }

def australian : DateNames :=
  { english with
    shortMonths :=
      ["Jan", "Feb", "Mar", "Apr", "May", "Jun", "Jul", "Aug", "Sept", "Oct", "Nov", "Dec"]
    periods := ["am", "pm"] }

def canadian : DateNames :=
  { english with
    periods := ["a.m.", "p.m."] }

def german : DateNames where
  weekdays := ["Montag", "Dienstag", "Mittwoch", "Donnerstag", "Freitag", "Samstag", "Sonntag"]
  months :=
    ["Januar", "Februar", "März", "April", "Mai", "Juni", "Juli", "August", "September",
     "Oktober", "November", "Dezember"]
  shortWeekdays := ["Mo.", "Di.", "Mi.", "Do.", "Fr.", "Sa.", "So."]
  shortMonths :=
    ["Jan.", "Feb.", "März", "Apr.", "Mai", "Juni", "Juli", "Aug.", "Sept.", "Okt.", "Nov.",
     "Dez."]
  aloneShortWeekdays := ["Mo", "Di", "Mi", "Do", "Fr", "Sa", "So"]
  aloneShortMonths :=
    ["Jan", "Feb", "Mär", "Apr", "Mai", "Jun", "Jul", "Aug", "Sep", "Okt", "Nov", "Dez"]
  eras := ["v. Chr.", "n. Chr."]

def austrian : DateNames :=
  { german with
    months :=
      ["Jänner", "Februar", "März", "April", "Mai", "Juni", "Juli", "August", "September",
       "Oktober", "November", "Dezember"]
    shortMonths :=
      ["Jän.", "Feb.", "März", "Apr.", "Mai", "Juni", "Juli", "Aug.", "Sep.", "Okt.", "Nov.",
       "Dez."] }

def french : DateNames where
  weekdays := ["lundi", "mardi", "mercredi", "jeudi", "vendredi", "samedi", "dimanche"]
  months :=
    ["janvier", "février", "mars", "avril", "mai", "juin", "juillet", "août", "septembre",
     "octobre", "novembre", "décembre"]
  shortWeekdays := ["lun.", "mar.", "mer.", "jeu.", "ven.", "sam.", "dim."]
  shortMonths :=
    ["janv.", "févr.", "mars", "avr.", "mai", "juin", "juil.", "août", "sept.", "oct.", "nov.",
     "déc."]
  eras := ["av. J.-C.", "ap. J.-C."]

def canadianFrench : DateNames :=
  { french with
    shortMonths :=
      ["janv.", "févr.", "mars", "avr.", "mai", "juin", "juill.", "août", "sept.", "oct.",
       "nov.", "déc."] }

def japanese : DateNames where
  weekdays := ["月曜日", "火曜日", "水曜日", "木曜日", "金曜日", "土曜日", "日曜日"]
  shortWeekdays := ["月", "火", "水", "木", "金", "土", "日"]
  eras := ["紀元前", "西暦"]

def arabic : DateNames where
  weekdays := ["الاثنين", "الثلاثاء", "الأربعاء", "الخميس", "الجمعة", "السبت", "الأحد"]
  months :=
    ["يناير", "فبراير", "مارس", "أبريل", "مايو", "يونيو", "يوليو", "أغسطس", "سبتمبر", "أكتوبر",
     "نوفمبر", "ديسمبر"]
  periods := ["ص", "م"]

def czech : DateNames where
  weekdays := ["pondělí", "úterý", "středa", "čtvrtek", "pátek", "sobota", "neděle"]
  months :=
    ["ledna", "února", "března", "dubna", "května", "června", "července", "srpna", "září",
     "října", "listopadu", "prosince"]
  aloneMonths :=
    ["leden", "únor", "březen", "duben", "květen", "červen", "červenec", "srpen", "září",
     "říjen", "listopad", "prosinec"]

def spanish : DateNames where
  weekdays := ["lunes", "martes", "miércoles", "jueves", "viernes", "sábado", "domingo"]
  months :=
    ["enero", "febrero", "marzo", "abril", "mayo", "junio", "julio", "agosto", "septiembre",
     "octubre", "noviembre", "diciembre"]
  shortMonths :=
    ["ene", "feb", "mar", "abr", "may", "jun", "jul", "ago", "sept", "oct", "nov", "dic"]

def finnish : DateNames where
  weekdays :=
    ["maanantai", "tiistai", "keskiviikko", "torstai", "perjantai", "lauantai", "sunnuntai"]
  months :=
    ["tammikuuta", "helmikuuta", "maaliskuuta", "huhtikuuta", "toukokuuta", "kesäkuuta",
     "heinäkuuta", "elokuuta", "syyskuuta", "lokakuuta", "marraskuuta", "joulukuuta"]
  aloneMonths :=
    ["tammikuu", "helmikuu", "maaliskuu", "huhtikuu", "toukokuu", "kesäkuu", "heinäkuu",
     "elokuu", "syyskuu", "lokakuu", "marraskuu", "joulukuu"]

def hebrew : DateNames where
  weekdays :=
    ["יום שני", "יום שלישי", "יום רביעי", "יום חמישי", "יום שישי", "יום שבת", "יום ראשון"]
  months :=
    ["ינואר", "פברואר", "מרץ", "אפריל", "מאי", "יוני", "יולי", "אוגוסט", "ספטמבר", "אוקטובר",
     "נובמבר", "דצמבר"]
  shortMonths :=
    ["ינו׳", "פבר׳", "מרץ", "אפר׳", "מאי", "יוני", "יולי", "אוג׳", "ספט׳", "אוק׳", "נוב׳",
     "דצמ׳"]

def hindi : DateNames where
  weekdays := ["सोमवार", "मंगलवार", "बुधवार", "गुरुवार", "शुक्रवार", "शनिवार", "रविवार"]
  months :=
    ["जनवरी", "फ़रवरी", "मार्च", "अप्रैल", "मई", "जून", "जुलाई", "अगस्त", "सितंबर", "अक्टूबर",
     "नवंबर", "दिसंबर"]
  shortMonths :=
    ["जन॰", "फ़र॰", "मार्च", "अप्रैल", "मई", "जून", "जुल॰", "अग॰", "सित॰", "अक्टू॰", "नव॰",
     "दिस॰"]
  periods := ["am", "pm"]

def hungarian : DateNames where
  weekdays := ["hétfő", "kedd", "szerda", "csütörtök", "péntek", "szombat", "vasárnap"]
  months :=
    ["január", "február", "március", "április", "május", "június", "július", "augusztus",
     "szeptember", "október", "november", "december"]
  shortMonths :=
    ["jan.", "febr.", "márc.", "ápr.", "máj.", "jún.", "júl.", "aug.", "szept.", "okt.", "nov.",
     "dec."]

def italian : DateNames where
  weekdays := ["lunedì", "martedì", "mercoledì", "giovedì", "venerdì", "sabato", "domenica"]
  months :=
    ["gennaio", "febbraio", "marzo", "aprile", "maggio", "giugno", "luglio", "agosto",
     "settembre", "ottobre", "novembre", "dicembre"]
  shortMonths :=
    ["gen", "feb", "mar", "apr", "mag", "giu", "lug", "ago", "set", "ott", "nov", "dic"]

def korean : DateNames where
  weekdays := ["월요일", "화요일", "수요일", "목요일", "금요일", "토요일", "일요일"]
  months := ["1월", "2월", "3월", "4월", "5월", "6월", "7월", "8월", "9월", "10월", "11월", "12월"]
  periods := ["오전", "오후"]

def dutch : DateNames where
  weekdays := ["maandag", "dinsdag", "woensdag", "donderdag", "vrijdag", "zaterdag", "zondag"]
  months :=
    ["januari", "februari", "maart", "april", "mei", "juni", "juli", "augustus", "september",
     "oktober", "november", "december"]
  shortMonths :=
    ["jan", "feb", "mrt", "apr", "mei", "jun", "jul", "aug", "sep", "okt", "nov", "dec"]

def polish : DateNames where
  weekdays := ["poniedziałek", "wtorek", "środa", "czwartek", "piątek", "sobota", "niedziela"]
  months :=
    ["stycznia", "lutego", "marca", "kwietnia", "maja", "czerwca", "lipca", "sierpnia",
     "września", "października", "listopada", "grudnia"]
  shortMonths :=
    ["sty", "lut", "mar", "kwi", "maj", "cze", "lip", "sie", "wrz", "paź", "lis", "gru"]
  aloneMonths :=
    ["styczeń", "luty", "marzec", "kwiecień", "maj", "czerwiec", "lipiec", "sierpień",
     "wrzesień", "październik", "listopad", "grudzień"]

def portuguese : DateNames where
  weekdays :=
    ["segunda-feira", "terça-feira", "quarta-feira", "quinta-feira", "sexta-feira", "sábado",
     "domingo"]
  months :=
    ["janeiro", "fevereiro", "março", "abril", "maio", "junho", "julho", "agosto", "setembro",
     "outubro", "novembro", "dezembro"]
  shortMonths :=
    ["jan.", "fev.", "mar.", "abr.", "mai.", "jun.", "jul.", "ago.", "set.", "out.", "nov.",
     "dez."]

def russian : DateNames where
  weekdays := ["понедельник", "вторник", "среда", "четверг", "пятница", "суббота", "воскресенье"]
  months :=
    ["января", "февраля", "марта", "апреля", "мая", "июня", "июля", "августа", "сентября",
     "октября", "ноября", "декабря"]
  shortMonths :=
    ["янв.", "февр.", "мар.", "апр.", "мая", "июн.", "июл.", "авг.", "сент.", "окт.", "нояб.",
     "дек."]
  aloneMonths :=
    ["январь", "февраль", "март", "апрель", "май", "июнь", "июль", "август", "сентябрь",
     "октябрь", "ноябрь", "декабрь"]
  aloneShortMonths :=
    ["янв.", "февр.", "март", "апр.", "май", "июнь", "июль", "авг.", "сент.", "окт.", "нояб.",
     "дек."]

def swedish : DateNames where
  weekdays := ["måndag", "tisdag", "onsdag", "torsdag", "fredag", "lördag", "söndag"]
  months :=
    ["januari", "februari", "mars", "april", "maj", "juni", "juli", "augusti", "september",
     "oktober", "november", "december"]
  shortMonths :=
    ["jan.", "feb.", "mars", "apr.", "maj", "juni", "juli", "aug.", "sep.", "okt.", "nov.",
     "dec."]

def turkish : DateNames where
  weekdays := ["Pazartesi", "Salı", "Çarşamba", "Perşembe", "Cuma", "Cumartesi", "Pazar"]
  months :=
    ["Ocak", "Şubat", "Mart", "Nisan", "Mayıs", "Haziran", "Temmuz", "Ağustos", "Eylül", "Ekim",
     "Kasım", "Aralık"]
  shortMonths :=
    ["Oca", "Şub", "Mar", "Nis", "May", "Haz", "Tem", "Ağu", "Eyl", "Eki", "Kas", "Ara"]

def chinese : DateNames where
  weekdays := ["星期一", "星期二", "星期三", "星期四", "星期五", "星期六", "星期日"]

/-- The names of the languages that are covered; of some of these only the names that their patterns
show. A language that is not here is given the names of the root locale in place of its own. -/
def table : List (String × DateNames) := [
  ("und", root), ("en", english), ("en-GB", british), ("en-AU", australian), ("en-CA", canadian),
  ("de", german), ("de-AT", austrian), ("fr", french), ("fr-CA", canadianFrench),
  ("ja", japanese), ("ar", arabic), ("cs", czech), ("es", spanish), ("fi", finnish),
  ("he", hebrew), ("hi", hindi), ("hu", hungarian), ("it", italian), ("ko", korean),
  ("nl", dutch), ("pl", polish), ("pt", portuguese), ("ru", russian), ("sv", swedish),
  ("tr", turkish), ("zh", chinese)]

def ofLocale (l : Locale) : DateNames :=
  l.lookup table root

end DateNames
end Phrasebook
