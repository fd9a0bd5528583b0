import FeatureLexer.Dialect.Basic

/-!
# The dialects with codes from t to z

The keyword spellings of each natural language, as its speakers write them.
-/

namespace FeatureLexer
namespace Dialect

/-- Tamil. -/
def tamil : Dialect where
  code := "ta"
  name := "Tamil"
  native := "தமிழ்"
  blockSpellings
    | .feature => ["அம்சம்", "வணிக தேவை", "திறன்"]
    | .rule => ["Rule"]
    | .background => ["பின்னணி"]
    | .scenario => ["உதாரணமாக", "காட்சி"]
    | .scenarioOutline => ["காட்சி சுருக்கம்", "காட்சி வார்ப்புரு"]
    | .examples => ["எடுத்துக்காட்டுகள்", "காட்சிகள்", "நிலைமைகளில்"]
  stepSpellings
    | .givenStep => ["* ", "கொடுக்கப்பட்ட "]
    | .whenStep => ["* ", "எப்போது "]
    | .thenStep => ["* ", "அப்பொழுது "]
    | .andStep => ["* ", "மேலும் ", "மற்றும் "]
    | .butStep => ["* ", "ஆனால் "]

/-- Telugu. -/
def telugu : Dialect where
  code := "te"
  name := "Telugu"
  native := "తెలుగు"
  blockSpellings
    | .feature => ["గుణము"]
    | .rule => ["Rule"]
    | .background => ["నేపథ్యం"]
    | .scenario => ["ఉదాహరణ", "సన్నివేశం"]
    | .scenarioOutline => ["కథనం"]
    | .examples => ["ఉదాహరణలు"]
  stepSpellings
    | .givenStep => ["* ", "చెప్పబడినది "]
    | .whenStep => ["* ", "ఈ పరిస్థితిలో "]
    | .thenStep => ["* ", "అప్పుడు "]
    | .andStep => ["* ", "మరియు "]
    | .butStep => ["* ", "కాని "]

/-- Thai. -/
def thai : Dialect where
  code := "th"
  name := "Thai"
  native := "ไทย"
  blockSpellings
    | .feature => ["โครงหลัก", "ความต้องการทางธุรกิจ", "ความสามารถ"]
    | .rule => ["Rule"]
    | .background => ["แนวคิด"]
    | .scenario => ["เหตุการณ์"]
    | .scenarioOutline => ["สรุปเหตุการณ์", "โครงสร้างของเหตุการณ์"]
    | .examples => ["ชุดของตัวอย่าง", "ชุดของเหตุการณ์"]
  stepSpellings
    | .givenStep => ["* ", "กำหนดให้ "]
    | .whenStep => ["* ", "เมื่อ "]
    | .thenStep => ["* ", "ดังนั้น "]
    | .andStep => ["* ", "และ "]
    | .butStep => ["* ", "แต่ "]

/-- Klingon. -/
def klingon : Dialect where
  code := "tlh"
  name := "Klingon"
  native := "tlhIngan"
  blockSpellings
    | .feature => ["Qap", "Qu'meH 'ut", "perbogh", "poQbogh malja'", "laH"]
    | .rule => ["Rule"]
    | .background => ["mo'"]
    | .scenario => ["lut"]
    | .scenarioOutline => ["lut chovnatlh"]
    | .examples => ["ghantoH", "lutmey"]
  stepSpellings
    | .givenStep => ["* ", "ghu' noblu' ", "DaH ghu' bejlu' "]
    | .whenStep => ["* ", "qaSDI' "]
    | .thenStep => ["* ", "vaj "]
    | .andStep => ["* ", "'ej ", "latlh "]
    | .butStep => ["* ", "'ach ", "'a "]

/-- Turkish. -/
def turkish : Dialect where
  code := "tr"
  name := "Turkish"
  native := "Türkçe"
  blockSpellings
    | .feature =>
        ["Özellik", "İş Gereksinimi", "Gereksinim", "İşlev", "Kullanıcı Hikayesi", "Yetenek",
         "Teknik Gereksinim"]
    | .rule => ["Kural", "İş Kuralı", "Kaide", "Hüküm", "Madde"]
    | .background =>
        ["Geçmiş", "Arka Plan", "Ön Koşul", "Önkoşul", "Önceki Durum", "Giriş", "Mukaddime",
         "Mevcut Durum"]
    | .scenario => ["Örnek", "Senaryo", "Durum", "Vaka"]
    | .scenarioOutline => ["Senaryo taslağı", "Senaryo şablonu"]
    | .examples => ["Örnekler", "Değerler"]
  stepSpellings
    | .givenStep =>
        ["* ", "Mevcut ", "Önceden ", "Geçmişte ", "Daha önce ", "Halihazırda ", "Zaten ",
         "Sistemde ", "Diyelim ki ", "Varsayalım ki ", "Farz edelim ki ", "Kabul edelim ki ",
         "Başlangıçta ", "Varsayılan olarak ", "Biliniyor ki "]
    | .whenStep => ["* ", "Eğer ", "Eğer ki ", "Ne zaman ", "Ne zaman ki ", "Şayet "]
    | .thenStep =>
        ["* ", "Beklenen ", "O zaman ", "Sonuç olarak ", "Böylece ", "Bunun üzerine ",
         "Bu durumda ", "O takdirde ", "Şu halde ", "Netice itibariyle ", "Buna binaen "]
    | .andStep => ["* ", "Ve ", "Hem de ", "Bir de ", "Ayrıca ", "İlaveten ", "Buna ek olarak "]
    | .butStep =>
        ["* ", "Fakat ", "Ama ", "Ancak ", "Yalnız ", "Lakin ", "Meğer ki ", "Buna mukabil ",
         "Aksi halde "]

/-- Tatar. -/
def tatar : Dialect where
  code := "tt"
  name := "Tatar"
  native := "Татарча"
  blockSpellings
    | .feature => ["Мөмкинлек", "Үзенчәлеклелек"]
    | .rule => ["Rule"]
    | .background => ["Кереш"]
    | .scenario => ["Сценарий"]
    | .scenarioOutline => ["Сценарийның төзелеше"]
    | .examples => ["Үрнәкләр", "Мисаллар"]
  stepSpellings
    | .givenStep => ["* ", "Әйтик "]
    | .whenStep => ["* ", "Әгәр "]
    | .thenStep => ["* ", "Нәтиҗәдә "]
    | .andStep => ["* ", "Һәм ", "Вә "]
    | .butStep => ["* ", "Ләкин ", "Әмма "]

/-- Ukrainian. -/
def ukrainian : Dialect where
  code := "uk"
  name := "Ukrainian"
  native := "Українська"
  blockSpellings
    | .feature => ["Функціонал"]
    | .rule => ["Rule"]
    | .background => ["Передумова"]
    | .scenario => ["Приклад", "Сценарій"]
    | .scenarioOutline => ["Структура сценарію"]
    | .examples => ["Приклади"]
  stepSpellings
    | .givenStep => ["* ", "Припустимо ", "Припустимо, що ", "Нехай ", "Дано "]
    | .whenStep => ["* ", "Якщо ", "Коли "]
    | .thenStep => ["* ", "То ", "Тоді "]
    | .andStep => ["* ", "І ", "А також ", "Та "]
    | .butStep => ["* ", "Але "]

/-- Urdu. -/
def urdu : Dialect where
  code := "ur"
  name := "Urdu"
  native := "اردو"
  blockSpellings
    | .feature => ["صلاحیت", "کاروبار کی ضرورت", "خصوصیت"]
    | .rule => ["Rule"]
    | .background => ["پس منظر"]
    | .scenario => ["منظرنامہ"]
    | .scenarioOutline => ["منظر نامے کا خاکہ"]
    | .examples => ["مثالیں"]
  stepSpellings
    | .givenStep => ["* ", "اگر ", "بالفرض ", "فرض کیا "]
    | .whenStep => ["* ", "جب "]
    | .thenStep => ["* ", "پھر ", "تب "]
    | .andStep => ["* ", "اور "]
    | .butStep => ["* ", "لیکن "]

/-- Uzbek. -/
def uzbek : Dialect where
  code := "uz"
  name := "Uzbek"
  native := "Узбекча"
  blockSpellings
    | .feature => ["Функционал"]
    | .rule => ["Rule"]
    | .background => ["Тарих"]
    | .scenario => ["Сценарий"]
    | .scenarioOutline => ["Сценарий структураси"]
    | .examples => ["Мисоллар"]
  stepSpellings
    | .givenStep => ["* ", "Belgilangan "]
    | .whenStep => ["* ", "Агар "]
    | .thenStep => ["* ", "Унда "]
    | .andStep => ["* ", "Ва "]
    | .butStep => ["* ", "Лекин ", "Бирок ", "Аммо "]

/-- Vietnamese. -/
def vietnamese : Dialect where
  code := "vi"
  name := "Vietnamese"
  native := "Tiếng Việt"
  blockSpellings
    | .feature => ["Tính năng"]
    | .rule => ["Quy tắc"]
    | .background => ["Bối cảnh"]
    | .scenario => ["Tình huống", "Kịch bản"]
    | .scenarioOutline => ["Khung tình huống", "Khung kịch bản"]
    | .examples => ["Dữ liệu"]
  stepSpellings
    | .givenStep => ["* ", "Biết ", "Cho "]
    | .whenStep => ["* ", "Khi "]
    | .thenStep => ["* ", "Thì "]
    | .andStep => ["* ", "Và "]
    | .butStep => ["* ", "Nhưng "]

/-- Chinese simplified. -/
def chineseSimplified : Dialect where
  code := "zh-CN"
  name := "Chinese simplified"
  native := "简体中文"
  blockSpellings
    | .feature => ["功能"]
    | .rule => ["Rule", "规则"]
    | .background => ["背景"]
    | .scenario => ["场景", "剧本"]
    | .scenarioOutline => ["场景大纲", "剧本大纲"]
    | .examples => ["例子"]
  stepSpellings
    | .givenStep => ["* ", "假如", "假设", "假定"]
    | .whenStep => ["* ", "当"]
    | .thenStep => ["* ", "那么"]
    | .andStep => ["* ", "而且", "并且", "同时"]
    | .butStep => ["* ", "但是"]

/-- Chinese traditional. -/
def chineseTraditional : Dialect where
  code := "zh-TW"
  name := "Chinese traditional"
  native := "繁體中文"
  blockSpellings
    | .feature => ["功能"]
    | .rule => ["Rule"]
    | .background => ["背景"]
    | .scenario => ["場景", "劇本"]
    | .scenarioOutline => ["場景大綱", "劇本大綱"]
    | .examples => ["例子"]
  stepSpellings
    | .givenStep => ["* ", "假如", "假設", "假定"]
    | .whenStep => ["* ", "當"]
    | .thenStep => ["* ", "那麼"]
    | .andStep => ["* ", "而且", "並且", "同時"]
    | .butStep => ["* ", "但是"]

end Dialect
end FeatureLexer
