import FeatureLexer.Dialect.Basic

/-!
# The dialects with codes from j to m

The keyword spellings of each natural language, as its speakers write them.
-/

namespace FeatureLexer
namespace Dialect

/-- Japanese. -/
def japanese : Dialect where
  code := "ja"
  name := "Japanese"
  native := "日本語"
  blockSpellings
    | .feature => ["フィーチャ", "機能"]
    | .rule => ["ルール"]
    | .background => ["背景"]
    | .scenario => ["シナリオ"]
    | .scenarioOutline => ["シナリオアウトライン", "シナリオテンプレート", "テンプレ", "シナリオテンプレ"]
    | .examples => ["例", "サンプル"]
  stepSpellings
    | .givenStep => ["* ", "前提"]
    | .whenStep => ["* ", "もし"]
    | .thenStep => ["* ", "ならば"]
    | .andStep => ["* ", "且つ", "かつ"]
    | .butStep => ["* ", "然し", "しかし", "但し", "ただし"]

/-- Javanese. -/
def javanese : Dialect where
  code := "jv"
  name := "Javanese"
  native := "Basa Jawa"
  blockSpellings
    | .feature => ["Fitur"]
    | .rule => ["Rule"]
    | .background => ["Dasar"]
    | .scenario => ["Skenario"]
    | .scenarioOutline => ["Konsep skenario"]
    | .examples => ["Conto", "Contone"]
  stepSpellings
    | .givenStep => ["* ", "Nalika ", "Nalikaning "]
    | .whenStep => ["* ", "Manawa ", "Menawa "]
    | .thenStep => ["* ", "Njuk ", "Banjur "]
    | .andStep => ["* ", "Lan "]
    | .butStep => ["* ", "Tapi ", "Nanging ", "Ananging "]

/-- Georgian. -/
def georgian : Dialect where
  code := "ka"
  name := "Georgian"
  native := "ქართული"
  blockSpellings
    | .feature => ["თვისება", "მოთხოვნა"]
    | .rule => ["წესი"]
    | .background => ["კონტექსტი"]
    | .scenario => ["მაგალითად", "მაგალითი", "მაგ", "სცენარი"]
    | .scenarioOutline => ["სცენარის ნიმუში", "სცენარის შაბლონი", "ნიმუში", "შაბლონი"]
    | .examples => ["მაგალითები"]
  stepSpellings
    | .givenStep => ["* ", "მოცემული ", "მოცემულია ", "ვთქვათ "]
    | .whenStep => ["* ", "როდესაც ", "როცა ", "როგორც კი ", "თუ "]
    | .thenStep => ["* ", "მაშინ "]
    | .andStep => ["* ", "და ", "ასევე "]
    | .butStep => ["* ", "მაგრამ ", "თუმცა "]

/-- Kannada. -/
def kannada : Dialect where
  code := "kn"
  name := "Kannada"
  native := "ಕನ್ನಡ"
  blockSpellings
    | .feature => ["ಹೆಚ್ಚಳ"]
    | .rule => ["Rule"]
    | .background => ["ಹಿನ್ನೆಲೆ"]
    | .scenario => ["ಉದಾಹರಣೆ", "ಕಥಾಸಾರಾಂಶ"]
    | .scenarioOutline => ["ವಿವರಣೆ"]
    | .examples => ["ಉದಾಹರಣೆಗಳು"]
  stepSpellings
    | .givenStep => ["* ", "ನೀಡಿದ "]
    | .whenStep => ["* ", "ಸ್ಥಿತಿಯನ್ನು "]
    | .thenStep => ["* ", "ನಂತರ "]
    | .andStep => ["* ", "ಮತ್ತು "]
    | .butStep => ["* ", "ಆದರೆ "]

/-- Korean. -/
def korean : Dialect where
  code := "ko"
  name := "Korean"
  native := "한국어"
  blockSpellings
    | .feature => ["기능"]
    | .rule => ["규칙"]
    | .background => ["배경"]
    | .scenario => ["시나리오"]
    | .scenarioOutline => ["시나리오 개요"]
    | .examples => ["예"]
  stepSpellings
    | .givenStep => ["* ", "조건 ", "먼저 "]
    | .whenStep => ["* ", "만일 ", "만약 "]
    | .thenStep => ["* ", "그러면 "]
    | .andStep => ["* ", "그리고 "]
    | .butStep => ["* ", "하지만 ", "단 "]

/-- Lithuanian. -/
def lithuanian : Dialect where
  code := "lt"
  name := "Lithuanian"
  native := "lietuvių kalba"
  blockSpellings
    | .feature => ["Savybė"]
    | .rule => ["Rule"]
    | .background => ["Kontekstas"]
    | .scenario => ["Pavyzdys", "Scenarijus"]
    | .scenarioOutline => ["Scenarijaus šablonas"]
    | .examples => ["Pavyzdžiai", "Scenarijai", "Variantai"]
  stepSpellings
    | .givenStep => ["* ", "Duota "]
    | .whenStep => ["* ", "Kai "]
    | .thenStep => ["* ", "Tada "]
    | .andStep => ["* ", "Ir "]
    | .butStep => ["* ", "Bet "]

/-- Luxemburgish. -/
def luxemburgish : Dialect where
  code := "lu"
  name := "Luxemburgish"
  native := "Lëtzebuergesch"
  blockSpellings
    | .feature => ["Funktionalitéit"]
    | .rule => ["Rule"]
    | .background => ["Hannergrond"]
    | .scenario => ["Beispill", "Szenario"]
    | .scenarioOutline => ["Plang vum Szenario"]
    | .examples => ["Beispiller"]
  stepSpellings
    | .givenStep => ["* ", "ugeholl "]
    | .whenStep => ["* ", "wann "]
    | .thenStep => ["* ", "dann "]
    | .andStep => ["* ", "an ", "a "]
    | .butStep => ["* ", "awer ", "mä "]

/-- Latvian. -/
def latvian : Dialect where
  code := "lv"
  name := "Latvian"
  native := "latviešu"
  blockSpellings
    | .feature => ["Funkcionalitāte", "Fīča"]
    | .rule => ["Rule"]
    | .background => ["Konteksts", "Situācija"]
    | .scenario => ["Piemērs", "Scenārijs"]
    | .scenarioOutline => ["Scenārijs pēc parauga"]
    | .examples => ["Piemēri", "Paraugs"]
  stepSpellings
    | .givenStep => ["* ", "Kad "]
    | .whenStep => ["* ", "Ja "]
    | .thenStep => ["* ", "Tad "]
    | .andStep => ["* ", "Un "]
    | .butStep => ["* ", "Bet "]

/-- Macedonian. -/
def macedonian : Dialect where
  code := "mk-Cyrl"
  name := "Macedonian"
  native := "Македонски"
  blockSpellings
    | .feature => ["Функционалност", "Бизнис потреба", "Можност"]
    | .rule => ["Rule"]
    | .background => ["Контекст", "Содржина"]
    | .scenario => ["Пример", "Сценарио", "На пример"]
    | .scenarioOutline => ["Преглед на сценарија", "Скица", "Концепт"]
    | .examples => ["Примери", "Сценарија"]
  stepSpellings
    | .givenStep => ["* ", "Дадено ", "Дадена "]
    | .whenStep => ["* ", "Кога "]
    | .thenStep => ["* ", "Тогаш "]
    | .andStep => ["* ", "И "]
    | .butStep => ["* ", "Но "]

/-- Macedonian (Latin). -/
def macedonianLatin : Dialect where
  code := "mk-Latn"
  name := "Macedonian (Latin)"
  native := "Makedonski (Latinica)"
  blockSpellings
    | .feature => ["Funkcionalnost", "Biznis potreba", "Mozhnost"]
    | .rule => ["Rule"]
    | .background => ["Kontekst", "Sodrzhina"]
    | .scenario => ["Scenario", "Na primer"]
    | .scenarioOutline => ["Pregled na scenarija", "Skica", "Koncept"]
    | .examples => ["Primeri", "Scenaria"]
  stepSpellings
    | .givenStep => ["* ", "Dadeno ", "Dadena "]
    | .whenStep => ["* ", "Koga "]
    | .thenStep => ["* ", "Togash "]
    | .andStep => ["* ", "I "]
    | .butStep => ["* ", "No "]

/-- Malayalam. -/
def malayalam : Dialect where
  code := "ml"
  name := "Malayalam"
  native := "മലയാളം"
  blockSpellings
    | .feature => ["സവിശേഷത"]
    | .rule => ["നിയമം"]
    | .background => ["പശ്ചാത്തലം"]
    | .scenario => ["രംഗം"]
    | .scenarioOutline => ["സാഹചര്യത്തിന്റെ രൂപരേഖ"]
    | .examples => ["ഉദാഹരണങ്ങൾ"]
  stepSpellings
    | .givenStep => ["* ", "നൽകിയത്"]
    | .whenStep => ["എപ്പോൾ"]
    | .thenStep => ["* ", "പിന്നെ"]
    | .andStep => ["* ", "ഒപ്പം"]
    | .butStep => ["* ", "പക്ഷേ"]

/-- Mongolian. -/
def mongolian : Dialect where
  code := "mn"
  name := "Mongolian"
  native := "монгол"
  blockSpellings
    | .feature => ["Функц", "Функционал"]
    | .rule => ["Rule"]
    | .background => ["Агуулга"]
    | .scenario => ["Сценар"]
    | .scenarioOutline => ["Сценарын төлөвлөгөө"]
    | .examples => ["Тухайлбал"]
  stepSpellings
    | .givenStep => ["* ", "Өгөгдсөн нь ", "Анх "]
    | .whenStep => ["* ", "Хэрэв "]
    | .thenStep => ["* ", "Тэгэхэд ", "Үүний дараа "]
    | .andStep => ["* ", "Мөн ", "Тэгээд "]
    | .butStep => ["* ", "Гэхдээ ", "Харин "]

/-- Marathi. -/
def marathi : Dialect where
  code := "mr"
  name := "Marathi"
  native := "मराठी"
  blockSpellings
    | .feature => ["वैशिष्ट्य", "सुविधा"]
    | .rule => ["नियम"]
    | .background => ["पार्श्वभूमी"]
    | .scenario => ["परिदृश्य"]
    | .scenarioOutline => ["परिदृश्य रूपरेखा"]
    | .examples => ["उदाहरण"]
  stepSpellings
    | .givenStep => ["* ", "जर", "दिलेल्या प्रमाणे "]
    | .whenStep => ["* ", "जेव्हा "]
    | .thenStep => ["* ", "मग ", "तेव्हा "]
    | .andStep => ["* ", "आणि ", "तसेच "]
    | .butStep => ["* ", "पण ", "परंतु "]

end Dialect
end FeatureLexer
