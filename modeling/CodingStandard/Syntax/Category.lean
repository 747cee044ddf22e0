import CodingStandard.Syntax.Tree

namespace CodingStandard

/-!
# Categories

The parts of speech of the language: statements, clauses, patterns, expressions and what they are
made of. A category either shows in the tree, as a node of some kind, or it is only there to
group others, and then its parts belong to the node around it.
-/

/-- A part of speech of the language. -/
inductive Category where
  | file
  | statement
  | simpleStatements
  | importStatement
  | importDots
  | relativeImport
  | futureImport
  | importFrom
  | importList
  | aliasedImport
  | wildcardImport
  | printStatement
  | chevron
  | assertStatement
  | expressionStatement
  | namedExpression
  | namedTarget
  | returnStatement
  | deleteStatement
  | raiseStatement
  | passStatement
  | breakStatement
  | continueStatement
  | ifStatement
  | elifClause
  | elseClause
  | matchStatement
  | matchBlock
  | caseClause
  | forStatement
  | whileStatement
  | tryStatement
  | exceptClause
  | finallyClause
  | withStatement
  | withClause
  | withItem
  | functionDefinition
  | parameters
  | lambdaParameters
  | listSplat
  | dictionarySplat
  | globalStatement
  | nonlocalStatement
  | execStatement
  | typeAliasStatement
  | classDefinition
  | typeParameters
  | parenthesizedSplat
  | argumentList
  | decoratedDefinition
  | decorator
  | block
  | expressionList
  | dottedName
  | casePattern
  | simpleCase
  | caseAs
  | caseUnion
  | caseList
  | caseTuple
  | caseDictionary
  | caseEntry
  | caseKeyword
  | caseSplat
  | caseClass
  | caseComplex
  | parameterList
  | patterns
  | parameter
  | pattern
  | tuplePattern
  | listPattern
  | defaultParameter
  | typedDefaultParameter
  | listSplatPattern
  | dictionarySplatPattern
  | asPattern
  | iterated
  | expression
  | primaryExpression
  | notOperator
  | booleanOperator
  | binaryOperator
  | unaryOperator
  | notIn
  | isNot
  | comparisonOperator
  | lambda
  | iteratedLambda
  | assignment
  | augmentedAssignment
  | patternList
  | assigned
  | yielded
  | member
  | subscript
  | slice
  | call
  | typedParameter
  | hint
  | splatHint
  | genericHint
  | unionHint
  | constrainedHint
  | memberHint
  | keywordArgument
  | listDisplay
  | setDisplay
  | tupleDisplay
  | dictionary
  | pair
  | listComprehension
  | dictionaryComprehension
  | setComprehension
  | generatorExpression
  | comprehensionClauses
  | parenthesizedExpression
  | elements
  | forInClause
  | ifClause
  | conditionalExpression
  | concatenatedString
  | string
  | stringContent
  | interpolation
  | embedded
  | formatSpecifier
  | formatExpression
  | awaited
  | positionalSeparator
  | keywordSeparator
  deriving DecidableEq, Repr

/-- The kind of node that a category shows as; `none` if it only groups. -/
def Category.kind? : Category → Option TreeKind
  | file => some .file
  | importStatement => some .importStatement
  | relativeImport => some .relativeImport
  | futureImport => some .futureImport
  | importFrom => some .importFrom
  | aliasedImport => some .aliasedImport
  | wildcardImport => some .wildcardImport
  | printStatement => some .printStatement
  | expressionStatement => some .expressionStatement
  | returnStatement => some .returnStatement
  | ifStatement => some (.compound .conditional)
  | matchStatement => some (.compound .matchBlock)
  | forStatement => some (.compound .forLoop)
  | whileStatement => some (.compound .whileLoop)
  | tryStatement => some (.compound .tryBlock)
  | exceptClause => some .exceptClause
  | withStatement => some (.compound .withBlock)
  | functionDefinition => some .functionDefinition
  | parameters => some .parameters
  | classDefinition => some .classDefinition
  | argumentList => some .arguments
  | decoratedDefinition => some .decorated
  | decorator => some .decorator
  | block => some .block
  | expressionList => some .expressionList
  | dottedName => some .dottedName
  | tuplePattern => some .tuplePattern
  | listPattern => some .listPattern
  | defaultParameter => some .defaultParameter
  | typedDefaultParameter => some .typedDefaultParameter
  | listSplatPattern => some .listSplatPattern
  | dictionarySplatPattern => some .dictSplatPattern
  | binaryOperator => some .binaryOperator
  | assignment => some .assignment
  | patternList => some .patternList
  | member => some .member
  | call => some .call
  | typedParameter => some .typedParameter
  | listDisplay => some .list
  | tupleDisplay => some .tuple
  | dictionary => some .dictionary
  | parenthesizedExpression => some .parenthesized
  | concatenatedString => some .strings
  | string => some .string
  | statement | simpleStatements | importList | namedTarget | matchBlock | simpleCase | caseAs
  | caseList | caseTuple | caseEntry | parameterList | patterns | parameter | pattern | iterated
  | expression | primaryExpression | notIn | isNot | assigned | comprehensionClauses | elements
  | embedded => none
  | _ => some .other

end CodingStandard
