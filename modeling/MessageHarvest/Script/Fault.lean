import MessageHarvest.Text.Basic

namespace MessageHarvest.Script

inductive Fault where
  | expressionExpected
  | statementEndExpected
  | semicolonExpected
  | expected (wanted found : Text)
  | unexpected (found wanted : Text)
  | identifierExpected
  | endOfSource
  | unterminatedString
  | unterminatedTemplate
  | unterminatedRegexp
  | unterminatedComment
  | invalidStringEscape
  | badEscape (wanted : Text)
  | legacyOctal
  | legacyDecimal
  | misplacedSeparator
  | identifierAfterNumber
  | exponentWithoutDigits
  | digitExpected (radix : Nat)
  | duplicateRegexpFlag (flag : Char)
  | unknownRegexpFlag
  | unexpectedCharacter (shown : Text)
  | unicodeEscapeExpected
  | invalidIdentifierCharacter
  | escapedReservedWord (word : Text)
  | legacyComment
  | spaceAfterHash
  | closingTagExpected (name : Text)
  | closingFragmentExpected
  | markupValue
  | markupText (shown : Text)
  | emptyParentheses
  | spreadInParentheses
  | shorthandDefault
  | lineBreakBeforeArrow
  | arrowNotAllowed
  | notPattern
  | restParameterNotLast
  | commaAfterRest
  | restNotLast
  | restWithDefault
  | ellipsisWithoutIdentifier
  | invalidTarget
  | targetNotSimple
  | cannotAssign
  | constantWithoutValue
  | patternWithoutValue
  | oneBindingExpected
  | valueInLoopHead
  | asyncLoopTarget
  | awaitLoopWithoutOf
  | emptyDeclarationList
  | evalOrArgumentsBound
  | strictIdentifier (word : Text)
  | awaitAsIdentifier
  | awaitInPlainFunction
  | awaitInParameters
  | yieldInParameters
  | awaitStar
  | deleteIdentifier
  | withStatement
  | returnOutsideFunction
  | declarationNotAllowed
  | labelledFunction
  | duplicateLabel (label : Text)
  | lineBreakAfterThrow
  | breakOutsideLoop
  | breakWithoutLabel
  | continueOutsideLoop
  | duplicateDefault
  | powerOfUnary
  | mixedNullish
  | constructionOfChain
  | templateInChain
  | superAccess
  | superCall
  | newTargetOutsideFunction
  | duplicateConstructor
  | constructorAccessor
  | constructorField
  | privateConstructor
  | asyncConstructor
  | generatorConstructor
  | argumentsInField
  | getterParameters
  | setterParameters
  | setterRest
  | strictDirective
  | nestedImportOrExport
  | exportNeedsSource (word : Text)
  | stringImported (name : Text)
  | stringExported
  | managedDeclaration
  deriving Repr, DecidableEq

private def forToken (word : Text) : Text := '\'' :: word ++ ['\'']

private def quoted (word : Text) : Text := Char.ofNat 96 :: word ++ [Char.ofNat 96]

private def radixName (radix : Nat) : Text :=
  if radix = 16 then "hexadecimal".toList
  else if radix = 8 then "octal".toList
  else if radix = 2 then "binary".toList
  else "decimal".toList

def Fault.message : Fault → Text
  | .expressionExpected => "Expression expected".toList
  | .statementEndExpected => "Expected ';', '\x7d' or <eof>".toList
  | .semicolonExpected => "Expected a semicolon".toList
  | .expected wanted found =>
      "Expected ".toList ++ forToken wanted ++ ", got ".toList ++ forToken found
  | .unexpected found wanted =>
      "Unexpected token ".toList ++ quoted found ++ ". Expected ".toList ++ wanted
  | .identifierExpected => "Expected ident".toList
  | .endOfSource => "Unexpected eof".toList
  | .unterminatedString => "Unterminated string constant".toList
  | .unterminatedTemplate => "Unterminated template".toList
  | .unterminatedRegexp => "Unterminated regexp literal".toList
  | .unterminatedComment => "Unterminated block comment".toList
  | .invalidStringEscape => "Invalid string escape".toList
  | .badEscape wanted => "Bad character escape sequence, expected ".toList ++ wanted
  | .legacyOctal => "Legacy octal escape is not permitted in strict mode".toList
  | .legacyDecimal => "Legacy decimal escape is not permitted in strict mode".toList
  | .misplacedSeparator => "A numeric separator is only allowed between two digits".toList
  | .identifierAfterNumber => "Identifier cannot follow number".toList
  | .exponentWithoutDigits => "Expected +, - or decimal digit after e".toList
  | .digitExpected radix =>
      (if radix = 8 then "Expected an ".toList else "Expected a ".toList) ++ radixName radix ++
        " digit".toList
  | .duplicateRegexpFlag flag =>
      "Duplicated regular expression flag '".toList ++ [flag] ++ "'.".toList
  | .unknownRegexpFlag => "Unknown regular expression flags.".toList
  | .unexpectedCharacter shown => "Unexpected character ".toList ++ shown
  | .unicodeEscapeExpected => "Expected unicode escape".toList
  | .invalidIdentifierCharacter => "Invalid character in identifier".toList
  | .escapedReservedWord word => "Unexpected escape sequence in reserved word: ".toList ++ word
  | .legacyComment => "Legacy comments cannot be used in module code".toList
  | .spaceAfterHash => "Unexpected space between # and identifier".toList
  | .closingTagExpected name =>
      "Expected corresponding JSX closing tag for <".toList ++ name ++ ['>']
  | .closingFragmentExpected => "Expected corresponding closing tag for JSX fragment".toList
  | .markupValue => "JSX value should be either an expression or a quoted JSX text".toList
  | .markupText shown => "Unexpected token. Did you mean ".toList ++ shown ++ ['?']
  | .emptyParentheses => "Parenthesized expression cannot be empty".toList
  | .spreadInParentheses => "Parenthesized expression cannot contain spread operator".toList
  | .shorthandDefault => "assignment property is invalid syntax".toList
  | .lineBreakBeforeArrow => "Unexpected line break between arrow head and arrow".toList
  | .arrowNotAllowed => "An arrow function is not allowed here".toList
  | .notPattern => "Not a pattern".toList
  | .restParameterNotLast => "A rest parameter must be last in a parameter list".toList
  | .commaAfterRest => "Trailing comma isn't permitted after a rest element".toList
  | .restNotLast => "Rest element must be final element".toList
  | .restWithDefault => "A rest parameter cannot have an initializer".toList
  | .ellipsisWithoutIdentifier =>
      quoted "...".toList ++ " must be followed by an identifier in declaration contexts".toList
  | .invalidTarget => "Invalid assignment target".toList
  | .targetNotSimple =>
      "The left-hand side of an assignment expression must be a variable or a property access.".toList
  | .cannotAssign => "Cannot assign to this".toList
  | .constantWithoutValue => "'const' declarations must be initialized".toList
  | .patternWithoutValue => "Destructuring bindings require initializers".toList
  | .oneBindingExpected => "Expected one variable binding".toList
  | .valueInLoopHead => "Unexpected initializer in for in/of loop".toList
  | .asyncLoopTarget => "The left-hand side of a 'for...of' statement may not be 'async'.".toList
  | .awaitLoopWithoutOf => "for await syntax is valid only for for-of statement".toList
  | .emptyDeclarationList => "Trailing comma is not allowed".toList
  | .evalOrArgumentsBound =>
      "'eval' and 'arguments' cannot be used as a binding identifier in strict mode".toList
  | .strictIdentifier word =>
      quoted word ++ " cannot be used as an identifier in strict mode".toList
  | .awaitAsIdentifier =>
      quoted "await".toList ++ " cannot be used as an identifier in an async context".toList
  | .awaitInPlainFunction => "await isn't allowed in non-async function".toList
  | .awaitInParameters =>
      quoted "await".toList ++ " expressions cannot be used in a parameter initializer".toList
  | .yieldInParameters => "'yield' cannot be used as a parameter within generator".toList
  | .awaitStar => "await* is not part of the language".toList
  | .deleteIdentifier => "'delete' cannot be called on an identifier in strict mode".toList
  | .withStatement => "With statement are not allowed in strict mode".toList
  | .returnOutsideFunction => "Return statement is not allowed here".toList
  | .declarationNotAllowed => "Declaration is not allowed".toList
  | .labelledFunction => "Function cannot be labelled in strict mode".toList
  | .duplicateLabel label => "Label ".toList ++ label ++ " is already declared".toList
  | .lineBreakAfterThrow => "LineBreak cannot follow 'throw'".toList
  | .breakOutsideLoop =>
      "A 'break' statement can only be used within an enclosing iteration or switch statement".toList
  | .breakWithoutLabel =>
      "A 'break' statement can only jump to a label of an enclosing statement".toList
  | .continueOutsideLoop =>
      "A 'continue' statement can only jump to a label of an enclosing iteration statement".toList
  | .duplicateDefault => "A switch block cannot have multiple defaults".toList
  | .powerOfUnary => "'**' cannot be applied to unary/await expression.".toList
  | .mixedNullish =>
      "Nullish coalescing operator(??) requires parens when mixing with logical operators".toList
  | .constructionOfChain => "Constructor in/after an optional chaining is not allowed.".toList
  | .templateInChain => "Tagged template literal is not allowed in optional chain.".toList
  | .superAccess => "Invalid access to super".toList
  | .superCall => "Invalid super call".toList
  | .newTargetOutsideFunction =>
      "'new.target' is only allowed in the body of a function declaration, function expression, or class.".toList
  | .duplicateConstructor => "A class can only have one constructor".toList
  | .constructorAccessor => "Class constructor can't be an accessor.".toList
  | .constructorField => "Classes may not have a non-static field named 'constructor'".toList
  | .privateConstructor => "Classes can't have a private field named '#constructor'.".toList
  | .asyncConstructor => "Constructor can't be an async function".toList
  | .generatorConstructor => "A constructor cannot be generator".toList
  | .argumentsInField => "'arguments' is only allowed in functions and class methods".toList
  | .getterParameters => "A ".toList ++ quoted "get".toList ++ " accessor cannot have parameters".toList
  | .setterParameters =>
      "A ".toList ++ quoted "set".toList ++ " accessor must have exactly one parameter".toList
  | .setterRest => "Rest pattern is not allowed in setter".toList
  | .strictDirective =>
      "Illegal 'use strict' directive in function with non-simple parameter list.".toList
  | .nestedImportOrExport =>
      "'import', and 'export' cannot be used outside of module code".toList
  | .exportNeedsSource word =>
      quoted word ++ " cannot be used without ".toList ++ quoted "from".toList ++ " clause".toList
  | .stringImported name =>
      "A string literal cannot be used as an imported binding.\n- Did you mean ".toList ++
        quoted ("import \x7b \"".toList ++ name ++ "\" as foo \x7d".toList) ++ ['?']
  | .stringExported =>
      "A string literal cannot be used as an exported binding without ".toList ++
        quoted "from".toList ++ ['.']
  | .managedDeclaration =>
      "Using declaration is not enabled. Set jsc.parser.explicitResourceManagement to true".toList

structure Report where
  fault : Fault
  line : Nat
  deriving Repr, DecidableEq

end MessageHarvest.Script
