import CodingStandard.Syntax.Rule

namespace CodingStandard

/-!
# The grammar

What each category of the language is made of. The language has two generations, and the grammar
takes both: `print` and `exec` are statements as well as names, strings may stand between back
quotes, and parameters may be tuples.

The order of the categories settles which of two otherwise equal readings is kept.
-/

namespace Category

open Rule

def count : Nat := keywordSeparator.ctorIdx + 1

def all : List Category := (List.range count).map ofNat

def simpleStatement : Rule :=
  choice [futureImport, importStatement, importFrom, printStatement, assertStatement,
    expressionStatement, returnStatement, deleteStatement, raiseStatement, passStatement,
    breakStatement, continueStatement, globalStatement, nonlocalStatement, execStatement,
    typeAliasStatement]

/-- A statement with a body. -/
def compoundStatement : Rule :=
  choice [ifStatement, forStatement, whileStatement, tryStatement, withStatement,
    functionDefinition, classDefinition, decoratedDefinition, matchStatement]

def expressions : Rule := choice [expression, expressionList]

/-- The target of an assignment or of a loop. -/
def target : Rule := choice [pattern, patternList]

/-- The body of a compound statement: statements on the same line, an indented block or nothing. -/
def suite : Rule :=
  choice [shownAs .block simpleStatements, seq [Lexeme.indent, block],
    shownAs .block Lexeme.newline]

/-- A word that is a name unless it starts a statement. -/
def softKeyword : Rule :=
  choice [ranked (-3) (shownAs .identifier (choice ["print", "exec", "async", "await"])),
    shownAs .identifier (choice ["type", "match"])]

/-- An operator between two expressions, with its rank and its side. -/
def operation (rule : Int → Rule → Rule) (rank : Int) (mark : String) : Rule :=
  rule rank (seq [inRole .left primaryExpression, inRole .operator mark,
    inRole .right primaryExpression])

/-- A word between two conditions. -/
def connective (rank : Int) (word : String) : Rule :=
  leftward rank (seq [inRole .left expression, inRole .operator word, inRole .right expression])

/-- What a splat can be applied to in a pattern. -/
def splatTarget : Rule := choice [Lexeme.identifier, softKeyword, subscript, member]

/-- Patterns of a `case` with commas between them, or nothing. -/
def casePatterns : Rule := maybe (seq [commas casePattern, maybe ","])

def caseNumber : Rule := choice [Lexeme.integer, Lexeme.float]

def importedNames : Rule := choice [importList, seq ["(", importList, ")"]]

def argument : Rule :=
  choice [expression, listSplat, dictionarySplat, shownAs .parenthesized parenthesizedSplat,
    keywordArgument]

/-- An expression in braces, with an equals sign, a conversion and a format after it. -/
def braced (inner : Rule) : Rule :=
  seq ["\x7b", inRole .expression inner, maybe "=", maybe (inRole .conversion Lexeme.conversion),
    maybe (inRole .format formatSpecifier), "\x7d"]

def rule : Category → Rule
  | file => many statement
  | statement => choice [simpleStatements, compoundStatement]
  | simpleStatements => seq [separated ";" simpleStatement, maybe ";", Lexeme.newline]
  | importStatement => seq ["import", importList]
  | importDots => many1 "."
  | relativeImport => seq [importDots, maybe dottedName]
  | futureImport => seq ["from", "__future__", "import", importedNames]
  | importFrom =>
    seq ["from", inRole .moduleName (choice [relativeImport, dottedName]), "import",
      choice [wildcardImport, importedNames]]
  | importList => seq [commas (inRole .name (choice [dottedName, aliasedImport])), maybe ","]
  | aliasedImport => seq [inRole .name dottedName, "as", inRole .asName Lexeme.identifier]
  | wildcardImport => "*"
  | printStatement =>
    choice [
      ranked 1 (seq ["print", chevron, many (seq [",", inRole .argument expression]),
        maybe ","]),
      ranked (-3) (preferred (-1) (seq ["print", commas (inRole .argument expression),
        maybe ","]))]
  | chevron => seq [">>", expression]
  | assertStatement => seq ["assert", commas expression]
  | expressionStatement =>
    choice [expression, seq [commas expression, maybe ","], assignment, augmentedAssignment,
      yielded]
  | namedExpression => seq [inRole .name namedTarget, ":=", inRole .value expression]
  | namedTarget => choice [Lexeme.identifier, softKeyword]
  | returnStatement => seq ["return", maybe expressions]
  | deleteStatement => seq ["del", expressions]
  | raiseStatement =>
    seq ["raise", maybe expressions, maybe (seq ["from", inRole .cause expression])]
  | passStatement => leftward 0 "pass"
  | breakStatement => leftward 0 "break"
  | continueStatement => leftward 0 "continue"
  | ifStatement =>
    seq ["if", inRole .condition expression, ":", inRole .consequence suite,
      many (inRole .alternative elifClause), maybe (inRole .alternative elseClause)]
  | elifClause => seq ["elif", inRole .condition expression, ":", inRole .consequence suite]
  | elseClause => seq ["else", ":", inRole .body suite]
  | matchStatement =>
    seq ["match", commas (inRole .subject expression), maybe ",", ":",
      inRole .body (shownAs .block matchBlock)]
  | matchBlock =>
    choice [seq [Lexeme.indent, many (inRole .alternative caseClause), Lexeme.dedent],
      Lexeme.newline]
  | caseClause =>
    seq ["case", commas casePattern, maybe ",", maybe (inRole .guard ifClause), ":",
      inRole .consequence suite]
  | forStatement =>
    seq [maybe "async", "for", inRole .left target, "in", inRole .right expressions, ":",
      inRole .body suite, inRole .alternative (maybe elseClause)]
  | whileStatement =>
    seq ["while", inRole .condition expression, ":", inRole .body suite,
      maybe (inRole .alternative elseClause)]
  | tryStatement =>
    seq ["try", ":", inRole .body suite, many exceptClause, maybe elseClause,
      maybe finallyClause]
  | exceptClause =>
    seq ["except", maybe "*", maybe (commas (inRole .value expression)), ":", suite]
  | finallyClause => seq ["finally", ":", suite]
  | withStatement => seq [maybe "async", "with", withClause, ":", inRole .body suite]
  | withClause =>
    choice [seq [commas withItem, maybe ","], seq ["(", commas withItem, maybe ",", ")"]]
  | withItem => preferred 1 (inRole .value expression)
  | functionDefinition =>
    seq [maybe "async", "def", inRole .name Lexeme.identifier,
      inRole .typeParameters (maybe typeParameters), inRole .parameters parameters,
      maybe (seq ["->", inRole .returnHint hint]), ":", inRole .body suite]
  | parameters => seq ["(", maybe parameterList, ")"]
  | lambdaParameters => parameterList
  | listSplat => seq ["*", expression]
  | dictionarySplat => seq ["**", expression]
  | globalStatement => seq ["global", commas Lexeme.identifier]
  | nonlocalStatement => seq ["nonlocal", commas Lexeme.identifier]
  | execStatement =>
    seq ["exec", inRole .code (choice [string, Lexeme.identifier]),
      maybe (seq ["in", commas expression])]
  | typeAliasStatement =>
    preferred 1 (seq ["type", inRole .left hint, "=", inRole .right hint])
  | classDefinition =>
    seq ["class", inRole .name Lexeme.identifier, inRole .typeParameters (maybe typeParameters),
      inRole .superclasses (maybe argumentList), ":", inRole .body suite]
  | typeParameters => seq ["[", commas hint, maybe ",", "]"]
  | parenthesizedSplat =>
    ranked 1 (seq ["(", choice [shownAs .parenthesized parenthesizedSplat, listSplat], ")"])
  | argumentList => seq ["(", maybe (commas argument), maybe ",", ")"]
  | decoratedDefinition =>
    seq [many1 decorator, inRole .definition (choice [classDefinition, functionDefinition])]
  | decorator => seq ["@", expression, Lexeme.newline]
  | block => seq [many statement, Lexeme.dedent]
  | expressionList =>
    rightward 0 (seq [expression,
      choice [",", seq [many1 (seq [",", expression]), maybe ","]]])
  | dottedName => ranked 1 (separated "." Lexeme.identifier)
  | casePattern => ranked 1 (choice [shownAs .other caseAs, caseKeyword, simpleCase])
  | simpleCase =>
    ranked 1 (choice [caseClass, caseSplat, caseUnion, shownAs .listPattern caseList,
      shownAs .tuplePattern caseTuple, caseDictionary, string, concatenatedString, "True",
      "False", "None", seq [maybe "-", caseNumber], caseComplex, dottedName, "_"])
  | caseAs => seq [casePattern, "as", Lexeme.identifier]
  | caseUnion =>
    rightward 0 (seq [simpleCase, many1 (leftward 0 (seq ["|", simpleCase]))])
  | caseList => seq ["[", casePatterns, "]"]
  | caseTuple => seq ["(", casePatterns, ")"]
  | caseDictionary =>
    seq ["\x7b", maybe (seq [commas (choice [caseEntry, caseSplat]), maybe ","]), "\x7d"]
  | caseEntry => seq [inRole .key simpleCase, ":", inRole .value casePattern]
  | caseKeyword => seq [Lexeme.identifier, "=", simpleCase]
  | caseSplat => ranked 1 (seq [choice ["*", "**"], choice [Lexeme.identifier, "_"]])
  | caseClass => seq [dottedName, "(", casePatterns, ")"]
  | caseComplex => ranked 1 (seq [maybe "-", caseNumber, choice ["+", "-"], caseNumber])
  | parameterList => seq [commas parameter, maybe ","]
  | patterns => seq [commas pattern, maybe ","]
  | parameter =>
    choice [Lexeme.identifier, typedParameter, defaultParameter, typedDefaultParameter,
      listSplatPattern, tuplePattern, keywordSeparator, positionalSeparator,
      dictionarySplatPattern]
  | pattern =>
    choice [Lexeme.identifier, softKeyword, subscript, member, listSplatPattern, tuplePattern,
      listPattern]
  | tuplePattern => seq ["(", maybe patterns, ")"]
  | listPattern => seq ["[", maybe patterns, "]"]
  | defaultParameter =>
    seq [inRole .name (choice [Lexeme.identifier, tuplePattern]), "=", inRole .value expression]
  | typedDefaultParameter =>
    ranked (-1) (seq [inRole .name Lexeme.identifier, ":", inRole .hint hint, "=",
      inRole .value expression])
  | listSplatPattern => seq ["*", splatTarget]
  | dictionarySplatPattern => seq ["**", splatTarget]
  | asPattern =>
    leftward 0 (seq [expression, "as", inRole .asName (shownAs .other expression)])
  | iterated => choice [expression, shownAs .other iteratedLambda]
  | expression =>
    choice [comparisonOperator, notOperator, booleanOperator, lambda, primaryExpression,
      conditionalExpression, namedExpression, asPattern]
  | primaryExpression =>
    choice [awaited, binaryOperator, Lexeme.identifier, softKeyword, string, concatenatedString,
      Lexeme.integer, Lexeme.float, "True", "False", "None", unaryOperator, member, subscript,
      call, listDisplay, listComprehension, dictionary, dictionaryComprehension, setDisplay,
      setComprehension, tupleDisplay, parenthesizedExpression, generatorExpression, "...",
      shownAs .other listSplatPattern]
  | notOperator => ranked 12 (seq ["not", inRole .argument expression])
  | booleanOperator => choice [connective 11 "and", connective 10 "or"]
  | binaryOperator =>
    choice [
      operation leftward 18 "+", operation leftward 18 "-", operation leftward 19 "*",
      operation leftward 19 "@", operation leftward 19 "/", operation leftward 19 "%",
      operation leftward 19 "//", operation rightward 21 "**",
      operation leftward 14 "|", operation leftward 15 "&", operation leftward 16 "^",
      operation leftward 17 "<<", operation leftward 17 ">>"]
  | unaryOperator =>
    ranked 20 (seq [inRole .operator (choice ["+", "-", "~"]),
      inRole .argument primaryExpression])
  | notIn => seq ["not", "in"]
  | isNot => seq ["is", "not"]
  | comparisonOperator =>
    leftward 13 (seq [primaryExpression, many1 (seq [
      inRole .operator (choice ["<", "<=", "==", "!=", ">=", ">", "<>", "in",
        shownAs .token notIn, "is", shownAs .token isNot]), primaryExpression])])
  | lambda =>
    ranked (-2) (seq ["lambda", inRole .parameters (maybe lambdaParameters), ":",
      inRole .body expression])
  | iteratedLambda =>
    seq ["lambda", inRole .parameters (maybe lambdaParameters), ":", inRole .body iterated]
  | assignment =>
    seq [inRole .left target, choice [
      seq ["=", inRole .right assigned],
      seq [":", inRole .hint hint],
      seq [":", inRole .hint hint, "=", inRole .right assigned]]]
  | augmentedAssignment =>
    seq [inRole .left target,
      inRole .operator (choice ["+=", "-=", "*=", "/=", "@=", "//=", "%=", "**=", ">>=", "<<=",
        "&=", "^=", "|="]), inRole .right assigned]
  | patternList =>
    seq [pattern, choice [",", seq [many1 (seq [",", pattern]), maybe ","]]]
  | assigned =>
    choice [expression, expressionList, assignment, augmentedAssignment, patternList, yielded]
  | yielded =>
    rightward 0 (seq ["yield", choice [seq ["from", expression], maybe expressions]])
  | member =>
    ranked 22 (seq [inRole .object primaryExpression, ".", inRole .member Lexeme.identifier])
  | subscript =>
    ranked 22 (seq [inRole .value primaryExpression, "[",
      commas (inRole .index (choice [expression, slice])), maybe ",", "]"])
  | slice =>
    seq [maybe expression, ":", maybe expression, maybe (seq [":", maybe expression])]
  | call =>
    ranked 22 (seq [inRole .function primaryExpression,
      inRole .arguments (choice [generatorExpression, argumentList])])
  | typedParameter =>
    ranked (-1) (seq [choice [Lexeme.identifier, listSplatPattern, dictionarySplatPattern], ":",
      inRole .hint hint])
  | hint =>
    choice [ranked 1 expression, splatHint, genericHint, unionHint, constrainedHint, memberHint]
  | splatHint => ranked 1 (seq [choice ["*", "**"], Lexeme.identifier])
  | genericHint =>
    ranked 1 (seq [choice [Lexeme.identifier, shownAs .identifier "type"], typeParameters])
  | unionHint => leftward 0 (seq [hint, "|", hint])
  | constrainedHint => rightward 0 (seq [hint, ":", hint])
  | memberHint => seq [hint, ".", Lexeme.identifier]
  | keywordArgument =>
    seq [inRole .name (choice [Lexeme.identifier, softKeyword]), "=", inRole .value expression]
  | listDisplay => seq ["[", maybe elements, "]"]
  | setDisplay => seq ["\x7b", elements, "\x7d"]
  | tupleDisplay => seq ["(", maybe elements, ")"]
  | dictionary =>
    seq ["\x7b", maybe (commas (choice [pair, dictionarySplat])), maybe ",", "\x7d"]
  | pair => seq [inRole .key expression, ":", inRole .value expression]
  | listComprehension => seq ["[", inRole .body expression, comprehensionClauses, "]"]
  | dictionaryComprehension => seq ["\x7b", inRole .body pair, comprehensionClauses, "\x7d"]
  | setComprehension => seq ["\x7b", inRole .body expression, comprehensionClauses, "\x7d"]
  | generatorExpression => seq ["(", inRole .body expression, comprehensionClauses, ")"]
  | comprehensionClauses => seq [forInClause, many (choice [forInClause, ifClause])]
  | parenthesizedExpression => ranked 1 (seq ["(", choice [expression, yielded], ")"])
  | elements =>
    seq [commas (choice [expression, yielded, listSplat, parenthesizedSplat]), maybe ","]
  | forInClause =>
    leftward 0 (seq [maybe "async", "for", inRole .left target, "in",
      inRole .right (commas iterated), maybe ","])
  | ifClause => seq ["if", expression]
  | conditionalExpression => rightward (-1) (seq [expression, "if", expression, "else", expression])
  | concatenatedString => seq [string, many1 string]
  | string =>
    seq [Lexeme.stringStart, many (choice [interpolation, stringContent]), Lexeme.stringEnd]
  | stringContent =>
    rightward 0 (many1 (choice [Lexeme.braceEscape, Lexeme.escape, Lexeme.backslash,
      Lexeme.stringText]))
  | interpolation => braced embedded
  | embedded => choice [expression, expressionList, patternList, yielded]
  | formatSpecifier =>
    seq [":", many (choice [Lexeme.formatText, shownAs .other formatExpression])]
  | formatExpression => braced expression
  | awaited => ranked 20 (seq ["await", primaryExpression])
  | positionalSeparator => "/"
  | keywordSeparator => "*"

end Category

end CodingStandard
