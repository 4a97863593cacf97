import Scaffold.Text.Words
import Scaffold.Text.Plural

/-! The four transforms of names that rule bodies may use. A registry carries one record of them, so
another language or house style replaces the record and no rule. -/

namespace Scaffold

structure Inflector where
  plural : String → String
  snake : String → String := Text.Words.snake
  lowerCamel : String → String := Text.Words.lowerCamel
  upperCamel : String → String := Text.Words.upperCamel

namespace Inflector

def english : Inflector where
  plural := Text.Plural.plural

def shouting : Inflector where
  plural word := Text.Casing.toCapital word ++ "S"

instance : Inhabited Inflector := ⟨english⟩

end Inflector
end Scaffold
